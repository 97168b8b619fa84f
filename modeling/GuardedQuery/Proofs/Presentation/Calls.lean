import GuardedQuery.Presentation
import GuardedQuery.Proofs.Script.Calls
import GuardedQuery.Proofs.Store.Hops

/-! Showing a row asks the store for related rows and for nothing else, and which rows it asks for
depends on the catalog alone. Relations are followed that the outline lists; those whose keys stand
in the row are not followed on the last level, where the keys are shown. -/

namespace GuardedQuery.Access
variable {P : Store.Call → Prop} {a : Access} {o : Outline}

/-- A field that the outline lists is followed to rows of another model, on the last level or on
one from which relations are shown further. -/
def Follows (a : Access) (o : Outline) (further : Bool) (model field target : String) : Prop :=
  o.has model field = true ∧ ∃ m kind, a.catalog.get model = .ok m ∧ m.kind? field = some kind ∧
    kind.hop? further = some target

theorem Follows.mono {further : Bool} {model field target : String}
    (h : a.Follows o further model field target) : a.Follows o true model field target := by
  obtain ⟨listed, m, kind, found, known, hop⟩ := h
  exact ⟨listed, m, kind, found, known, FieldKind.hop?_further hop⟩

theorem isSome_of_shower? {nested : Option Shower} {target : String}
    {shower : Row → Script Value} (h : shower? o nested target = some shower) :
    nested.isSome = true := by
  rw [shower?] at h
  split at h
  · split at h
    · cases h
    · obtain ⟨inner, rfl, _⟩ := Option.map_eq_some_iff.1 h
      rfl
  · cases h

theorem asks_of_shower? {nested : Option Shower} {target : String} {shower : Row → Script Value}
    (deeper : ∀ inner ∈ nested, ∀ model row, (inner model row).Asks P)
    (h : shower? o nested target = some shower) (row : Row) : (shower row).Asks P := by
  rw [shower?] at h
  split at h
  · split at h
    · cases h
    · obtain ⟨inner, here, rfl⟩ := Option.map_eq_some_iff.1 h
      exact deeper inner here target row
  · cases h

theorem asks_fieldValue {nested : Option Shower} {model field : String} {row : Row} {m : Model}
    (related : ∀ kind target, m.kind? field = some kind →
      kind.hop? nested.isSome = some target → P (.related model row field))
    (deeper : ∀ inner ∈ nested, ∀ model row, (inner model row).Asks P) :
    (a.fieldValue o nested m model row field).Asks P := by
  have ask {kind : FieldKind} {target : String} (known : m.kind? field = some kind)
      (hop : kind.hop? nested.isSome = some target) :
      (Script.related model row field).Asks P := Script.asks_request (related kind target known hop)
  rw [fieldValue]
  split
  · exact Script.asks_done _
  split
  · exact Script.asks_done _
  split
  · exact Script.asks_done _
  · exact Script.asks_done _
  · exact Script.asks_done _
  · rename_i target known
    split
    · rename_i shower found
      have hop : (FieldKind.toOne target).hop? nested.isSome = some target := by
        rw [isSome_of_shower? found]
        rfl
      refine Script.asks_bind (ask known hop) fun others => ?_
      refine Script.asks_bind ?_ fun _ => Script.asks_done _
      cases others with
      | nil => exact Script.asks_done _
      | cons other _ => exact asks_of_shower? deeper found other
    · exact Script.asks_done _
  · rename_i target known
    split
    · rename_i shower found
      have hop : (FieldKind.toMany target).hop? nested.isSome = some target := by
        rw [isSome_of_shower? found]
        rfl
      refine Script.asks_bind (ask known hop) fun others => ?_
      refine Script.asks_bind ?_ fun _ => Script.asks_done _
      exact Script.asks_mapM fun other _ => asks_of_shower? deeper found other
    · exact Script.asks_done _
  · rename_i target via known
    split
    · rename_i shower found
      refine Script.asks_bind (ask known rfl) fun others => ?_
      refine Script.asks_bind ?_ fun _ => Script.asks_done _
      exact Script.asks_mapM fun other _ => asks_of_shower? deeper found other
    · refine Script.asks_bind (Script.asks_done _) fun _ => ?_
      exact Script.asks_bind (ask known rfl) fun _ => Script.asks_done _

theorem asks_showFields {nested : Option Shower} {model : String} {row : Row}
    {fields : List String} {m : Model}
    (related : ∀ field ∈ fields, ∀ kind target, m.kind? field = some kind →
      kind.hop? nested.isSome = some target → P (.related model row field))
    (deeper : ∀ inner ∈ nested, ∀ model row, (inner model row).Asks P) (shown : Row) :
    (a.showFields o nested m model row fields shown).Asks P := by
  induction fields generalizing shown with
  | nil => exact Script.asks_done _
  | cons field rest ih =>
    obtain ⟨here, others⟩ := List.forall_mem_cons.1 related
    rw [showFields]
    refine Script.asks_bind (asks_fieldValue here deeper) fun value => ?_
    cases value with
    | some value => exact ih others _
    | none => exact ih others _

theorem asks_showRow {nested : Option Shower}
    (related : ∀ model row field target, a.Follows o nested.isSome model field target →
      P (.related model row field))
    (deeper : ∀ inner ∈ nested, ∀ model row, (inner model row).Asks P)
    (model : String) (row : Row) : (a.showRow o nested model row).Asks P := by
  have listed : ∀ field ∈ ((o.get? model).getD .empty).toList, o.has model field = true := by
    intro field mem
    cases found : o.get? model with
    | none =>
      rw [found] at mem
      cases mem
    | some names =>
      rw [found] at mem
      simpa [Outline.has, found] using NameSet.mem_def.2 mem
  rw [showRow]
  refine Script.asks_check fun m found => ?_
  refine Script.asks_bind (asks_showFields (fun field mem kind target known hop => ?_) deeper _)
    fun _ => Script.asks_done _
  exact related model row field target ⟨listed field mem, m, kind, found, known, hop⟩

theorem asks_present_of_follows {levels : Nat}
    (related : ∀ model row field target, a.Follows o (levels != 0) model field target →
      P (.related model row field))
    (model : String) (row : Row) : (a.present o levels model row).Asks P := by
  induction levels generalizing model row with
  | zero => exact asks_showRow related (by simp) model row
  | succ levels ih =>
    refine asks_showRow related (fun inner here => ?_) model row
    obtain rfl : a.present o levels = inner := by simpa using here
    exact ih fun model row field target follows => related model row field target follows.mono

theorem asks_presentAll_of_follows {levels : Nat}
    (related : ∀ model row field target, a.Follows o (levels != 0) model field target →
      P (.related model row field))
    (model : String) (rows : List Row) : (a.presentAll o levels model rows).Asks P :=
  Script.asks_bind (Script.asks_mapM fun row _ => asks_present_of_follows related model row)
    fun _ => Script.asks_done _

/-- Only relations that the outline lists are asked for. -/
theorem asks_presentAll_of_has
    (related : ∀ model row field, o.has model field = true → P (.related model row field))
    (levels : Nat) (model : String) (rows : List Row) : (a.presentAll o levels model rows).Asks P :=
  asks_presentAll_of_follows (fun model row field _ follows => related model row field follows.1)
    model rows

theorem asks_present (related : ∀ model row field, P (.related model row field)) (levels : Nat)
    (model : String) (row : Row) : (a.present o levels model row).Asks P :=
  asks_present_of_follows (fun model row field _ _ => related model row field) model row

theorem asks_presentAll (related : ∀ model row field, P (.related model row field)) (levels : Nat)
    (model : String) (rows : List Row) : (a.presentAll o levels model rows).Asks P :=
  asks_presentAll_of_has (fun model row field _ => related model row field) levels model rows

/-! Who asks does not matter -/

section
variable {b : Access} (same : a.catalog = b.catalog)
include same

theorem showFields_congr (nested : Option Shower) (m : Model) (model : String)
    (row : Row) (fields : List String) (shown : Row) :
    a.showFields o nested m model row fields shown =
      b.showFields o nested m model row fields shown := by
  have values (field : String) :
      a.fieldValue o nested m model row field = b.fieldValue o nested m model row field := by
    rw [fieldValue, fieldValue, same]
  induction fields generalizing shown with
  | nil => rfl
  | cons field rest ih =>
    rw [showFields, showFields, values]
    congr 1
    funext made
    cases made with
    | none => exact ih shown
    | some value => exact ih _

theorem showRow_congr (nested : Option Shower) :
    a.showRow o nested = b.showRow o nested := by
  funext model row
  simp only [showRow, same, showFields_congr same]

theorem present_congr (levels : Nat) : a.present o levels = b.present o levels := by
  induction levels with
  | zero => exact showRow_congr same none
  | succ levels ih => rw [present, present, showRow_congr same, ih]

end

end GuardedQuery.Access
