import GuardedQuery.Proofs.Checks
import GuardedQuery.Store.Basic

/-! The columns that a path is resolved to. A path is followed as the store does, with a note of
each column before it is looked at; without the notes the values of the path are left. -/

namespace GuardedQuery

/-- A column that a path is resolved to behind a number of its names. -/
structure Hop where
  index : Nat
  model : String
  column : String

/-- The model whose rows are looked at when a field of this kind is followed. A column of keys is
read by itself unless it is followed further. -/
def FieldKind.hop? (further : Bool) : FieldKind → Option String
  | .toOne target | .toMany target => if further then some target else none
  | .reverse target _ => some target
  | .scalar | .json => none

theorem FieldKind.hop?_further {kind : FieldKind} {further : Bool} {target : String}
    (hop : kind.hop? further = some target) : kind.hop? true = some target := by
  cases kind <;> cases further <;> simp_all [hop?]

theorem FieldKind.target?_of_hop? {kind : FieldKind} {further : Bool} {target : String}
    (hop : kind.hop? further = some target) : kind.target? = some target := by
  cases kind <;> cases further <;> simp_all [hop?, target?]

namespace Store

/-- What is computed, and the hops noted on the way. -/
structure Noted (α : Type) where
  value : Except Error α
  notes : List Hop

namespace Noted
variable {α β : Type}

def bind (x : Noted α) (f : α → Noted β) : Noted β :=
  match x.value with
  | .ok a => ⟨(f a).value, x.notes ++ (f a).notes⟩
  | .error e => ⟨.error e, x.notes⟩

instance : Monad Noted where
  pure a := ⟨.ok a, []⟩
  bind := bind

instance : MonadLift (Except Error) Noted := ⟨fun value => ⟨value, []⟩⟩

def note (hop : Hop) : Noted Unit := ⟨.ok (), [hop]⟩

theorem bind_pure' (x : Noted α) : x.bind (fun a => ⟨.ok a, []⟩) = x := by
  obtain ⟨value, notes⟩ := x
  cases value <;> simp [bind]

theorem bind_assoc {γ : Type} (x : Noted α) (f : α → Noted β) (g : β → Noted γ) :
    (x.bind f).bind g = x.bind fun a => (f a).bind g := by
  obtain ⟨value, notes⟩ := x
  cases value with
  | error e => rfl
  | ok a =>
    simp only [bind]
    cases (f a).value <;> simp

instance : LawfulMonad Noted :=
  .mk' Noted bind_pure' (fun _ _ => rfl) bind_assoc

theorem value_bind (x : Noted α) (f : α → Noted β) :
    (x >>= f).value = x.value >>= fun a => (f a).value := by
  change (x.bind f).value = _
  rw [bind]
  cases x.value <;> rfl

theorem mem_notes_bind {x : Noted α} {f : α → Noted β} {hop : Hop} :
    hop ∈ (x >>= f).notes ↔ hop ∈ x.notes ∨ ∃ a, x.value = .ok a ∧ hop ∈ (f a).notes := by
  change hop ∈ (x.bind f).notes ↔ _
  rw [bind]
  cases x.value <;> simp

theorem value_mapM (f : α → Noted β) (xs : List α) :
    (xs.mapM f).value = xs.mapM fun x => (f x).value := by
  induction xs with
  | nil => rfl
  | cons x rest ih =>
    rw [List.mapM_cons, List.mapM_cons, value_bind]
    congr 1
    funext y
    rw [value_bind, ih]
    rfl

theorem exists_of_mem_notes_mapM {f : α → Noted β} {xs : List α} {hop : Hop}
    (h : hop ∈ (xs.mapM f).notes) : ∃ x ∈ xs, hop ∈ (f x).notes := by
  induction xs with
  | nil => exact absurd h List.not_mem_nil
  | cons x rest ih =>
    rw [List.mapM_cons, mem_notes_bind] at h
    rcases h with here | ⟨_, _, h⟩
    · exact ⟨x, List.mem_cons_self, here⟩
    rcases mem_notes_bind.1 h with there | ⟨_, _, none⟩
    · obtain ⟨y, mem, noted⟩ := ih there
      exact ⟨y, List.mem_cons_of_mem _ mem, noted⟩
    · exact absurd none List.not_mem_nil

end Noted

end Store

/-- The column that a name of a path stands for. -/
def Model.column (m : Model) (name : String) : String :=
  if m.isKey name then m.schema.key else name

namespace Store
variable {s : Store}

/-- The values that a path reaches from a row, with a note of each column it is resolved to. -/
def notedAlong (s : Store) : Nat → String → Row → List String → Noted (List Value)
  | _, _, _, [] => return [.null]
  | index, model, row, first :: rest => do
    let m ← s.model model
    Noted.note ⟨index, model, m.column first⟩
    let column := row.get? (m.column first)
    match m.schema.kind? (m.column first), rest with
    | some (.toMany _), [] => return orNull ((column.bind Value.arr?).getD [])
    | some (.reverse target _), [] =>
      let t ← s.model target
      return orNull ((← s.relatedRows m row (m.column first)).filterMap (·.get? t.schema.key))
    | _, [] => return [column.getD .null]
    | some .json, _ => return [(column.bind (descend · rest)).getD .null]
    | some (.toOne target), _ | some (.toMany target), _ | some (.reverse target _), _ =>
      let others ← s.relatedRows m row (m.column first)
      let found ← others.mapM fun other => s.notedAlong (index + 1) target other rest
      return orNull found.flatten
    | _, _ => return [.null]

/-- The hops of a path from a row, in the order in which they are looked at. -/
def hopsAlong (s : Store) (model : String) (row : Row) (names : List String) : List Hop :=
  (s.notedAlong 0 model row names).notes

theorem notedAlong_value (index : Nat) (model : String) (row : Row) (names : List String) :
    (s.notedAlong index model row names).value = s.valuesAlong model row names := by
  induction names generalizing index model row with
  | nil => rfl
  | cons first rest ih =>
    have nested (target : String) (m : Model) :
        Noted.value (do
          let others ← s.relatedRows m row (m.column first)
          let found ← others.mapM fun other => s.notedAlong (index + 1) target other rest
          return orNull found.flatten) = (do
        let found ← (← s.relatedRows m row (m.column first)).mapM fun other =>
          s.valuesAlong target other rest
        return orNull found.flatten) := by
      rw [Noted.value_bind]
      refine congrArg _ (funext fun others => ?_)
      rw [Noted.value_bind, Noted.value_mapM]
      simp only [ih]
      rfl
    rw [notedAlong, valuesAlong, Noted.value_bind]
    refine congrArg _ (funext fun m => ?_)
    rw [Noted.value_bind]
    have refold : (if m.isKey first = true then m.schema.key else first) = m.column first := rfl
    simp only [refold]
    change Noted.value _ = _
    cases m.schema.kind? (m.column first) with
    | none => cases rest <;> rfl
    | some kind =>
      cases kind with
      | scalar | json => cases rest <;> rfl
      | toOne target =>
        cases rest with
        | nil => rfl
        | cons second others => exact nested target m
      | toMany target =>
        cases rest with
        | nil => rfl
        | cons second others => exact nested target m
      | reverse target via =>
        cases rest with
        | nil =>
          refine (Noted.value_bind _ _).trans (congrArg _ (funext fun t => ?_))
          exact Noted.value_bind _ _
        | cons second others => exact nested target m

/-- The first column is that of the first name; further ones are noted from related rows on, and
only if names are left. -/
theorem hop_cases {index : Nat} {model : String} {row : Row} {first : String} {rest : List String}
    {hop : Hop} (h : hop ∈ (s.notedAlong index model row (first :: rest)).notes) :
    ∃ m, s.catalog.model? model = some m ∧
      (hop = ⟨index, model, m.column first⟩ ∨
        ∃ kind target other, m.schema.kind? (m.column first) = some kind ∧
          kind.target? = some target ∧
          hop ∈ (s.notedAlong (index + 1) target other rest).notes) := by
  rw [notedAlong] at h
  rcases Noted.mem_notes_bind.1 h with none | ⟨m, found, h⟩
  · exact absurd none List.not_mem_nil
  refine ⟨m, ?_, ?_⟩
  · change s.model model = .ok m at found
    rw [Store.model] at found
    split at found
    · rename_i m' known
      cases found
      exact known
    · cases found
  rcases Noted.mem_notes_bind.1 h with here | ⟨_, _, h⟩
  · exact .inl (List.mem_singleton.1 here)
  right
  have none {values : List Value} : hop ∉ (pure values : Noted (List Value)).notes :=
    List.not_mem_nil
  have nested {target : String} (h : hop ∈ Noted.notes (do
      let others ← s.relatedRows m row (m.column first)
      let found ← others.mapM fun other => s.notedAlong (index + 1) target other rest
      return orNull found.flatten)) :
      ∃ other, hop ∈ (s.notedAlong (index + 1) target other rest).notes := by
    rcases Noted.mem_notes_bind.1 h with no | ⟨others, _, h⟩
    · exact absurd no List.not_mem_nil
    rcases Noted.mem_notes_bind.1 h with there | ⟨_, _, no⟩
    · obtain ⟨other, _, noted⟩ := Noted.exists_of_mem_notes_mapM there
      exact ⟨other, noted⟩
    · exact absurd no none
  split at h
  case h_1 | h_3 | h_4 | h_8 => exact absurd h none
  case h_2 =>
    rcases Noted.mem_notes_bind.1 h with no | ⟨t, _, h⟩
    · exact absurd no List.not_mem_nil
    rcases Noted.mem_notes_bind.1 h with no | ⟨_, _, no⟩
    · exact absurd no List.not_mem_nil
    · exact absurd no none
  case h_5 | h_6 | h_7 =>
    obtain ⟨other, noted⟩ := nested h
    exact ⟨_, _, other, by assumption, rfl, noted⟩

theorem index_le_of_mem {index : Nat} {model : String} {row : Row} {names : List String}
    {hop : Hop} (h : hop ∈ (s.notedAlong index model row names).notes) : index ≤ hop.index := by
  induction names generalizing index model row with
  | nil => exact absurd h List.not_mem_nil
  | cons first rest ih =>
    obtain ⟨m, _, rfl | ⟨_, _, _, _, _, noted⟩⟩ := hop_cases h
    · exact Nat.le_refl _
    · exact Nat.le_of_succ_le (ih noted)

end Store

end GuardedQuery
