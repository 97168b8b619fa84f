import GuardedQuery.Proofs.Checks
import GuardedQuery.Proofs.Predicate.Acceptance
import GuardedQuery.Store.Select

/-! The rows that a selection yields. They are stored rows that its predicate accepts, and
without a window they are all of them; the order and the window of a selection only arrange what
its predicate accepts. -/

namespace GuardedQuery

/-- Selections that differ in order, window and loaded relations only. -/
def Selection.Arranges (sel arranged : Selection) : Prop :=
  arranged.model = sel.model ∧ arranged.predicate = sel.predicate

namespace Selection

theorem arranges_refl (sel : Selection) : sel.Arranges sel := ⟨rfl, rfl⟩

theorem Arranges.trans {a b c : Selection} (h : a.Arranges b) (h' : b.Arranges c) :
    a.Arranges c := ⟨h'.1.trans h.1, h'.2.trans h.2⟩

theorem arranges_whole (sel : Selection) : sel.Arranges sel.whole := ⟨rfl, rfl⟩

theorem arranges_reversed (sel : Selection) : sel.Arranges sel.reversed := ⟨rfl, rfl⟩

theorem arranges_window {sel windowed : Selection} {offset : Nat} {limit : Option Nat}
    (h : sel.window offset limit = .ok windowed) : sel.Arranges windowed := by
  rw [window] at h
  split at h
  · cases h
    exact ⟨rfl, rfl⟩
  · cases h

theorem window_order {sel windowed : Selection} {offset : Nat} {limit : Option Nat}
    (h : sel.window offset limit = .ok windowed) : windowed.order = sel.order := by
  rw [window] at h
  split at h
  · cases h
    rfl
  · cases h

theorem mem_of_mem_page {α : Type} {sel : Selection} {rows : List α} {row : α}
    (h : row ∈ sel.page rows) : row ∈ rows := by
  rw [page] at h
  split at h
  · exact List.mem_of_mem_drop (List.mem_of_mem_take h)
  · exact List.mem_of_mem_drop h

end Selection

namespace Store
variable {s : Store}

theorem mem_keepIf {test : Row → Except Error Bool} {rows kept : List Row}
    (h : keepIf test rows = .ok kept) (row : Row) :
    row ∈ kept ↔ row ∈ rows ∧ test row = .ok true := by
  induction rows generalizing kept with
  | nil =>
    cases h
    simp
  | cons first rest ih =>
    rw [keepIf] at h
    obtain ⟨keep, tested, h⟩ := Checks.bind_ok_iff.1 h
    obtain ⟨others, found, h⟩ := Checks.bind_ok_iff.1 h
    rw [Checks.pure_ok_iff] at h
    subst h
    have inRest := ih found
    cases keep with
    | true =>
      simp only [if_true, List.mem_cons, inRest]
      constructor
      · rintro (rfl | ⟨mem, holds⟩)
        · exact ⟨.inl rfl, tested⟩
        · exact ⟨.inr mem, holds⟩
      · rintro ⟨rfl | mem, holds⟩
        · exact .inl rfl
        · exact .inr ⟨mem, holds⟩
    | false =>
      simp only [Bool.false_eq_true, if_false, List.mem_cons, inRest]
      constructor
      · rintro ⟨mem, holds⟩
        exact ⟨.inr mem, holds⟩
      · rintro ⟨rfl | mem, holds⟩
        · rw [tested] at holds
          cases holds
        · exact ⟨mem, holds⟩

theorem sorted_perm {model : String} {order : List OrderTerm} {rows sorted : List Row}
    (h : s.sorted model order rows = .ok sorted) : sorted.Perm rows := by
  rw [Store.sorted] at h
  obtain ⟨keyed, found, h⟩ := Checks.bind_ok_iff.1 h
  rw [Checks.pure_ok_iff] at h
  subst h
  have back : keyed.map Prod.snd = rows := by
    refine Checks.map_of_mapM_ok (fun row entry keyedRow => ?_) found
    obtain ⟨keys, _, made⟩ := Checks.bind_ok_iff.1 keyedRow
    rw [← Checks.pure_ok_iff.1 made]
  rw [← back]
  exact (Sorting.sort_perm _ keyed).map Prod.snd

def Stored (s : Store) (model : String) (row : Row) : Prop := row ∈ (s.table model).values

theorem mem_matching {model : String} {p : Predicate} {found : List Row}
    (h : s.matching model p = .ok found) (row : Row) :
    row ∈ found ↔ s.Stored model row ∧ s.Accepts model row p := by
  rw [matching] at h
  obtain ⟨rows, stored, kept⟩ := Checks.bind_ok_iff.1 h
  rw [Store.rows] at stored
  obtain ⟨_, _, stored⟩ := Checks.bind_ok_iff.1 stored
  rw [← Checks.pure_ok_iff.1 stored] at kept
  exact mem_keepIf kept row

/-- A selection takes a page of the stored rows that it accepts, in some order, or it is void. -/
theorem select_cases {sel : Selection} {rows : List Row} (h : s.select sel = .ok rows) :
    sel.isVoid = true ∧ rows = [] ∨
      sel.isVoid = false ∧ ∃ sorted, rows = sel.page sorted ∧
        ∀ row, row ∈ sorted ↔ s.Stored sel.model row ∧ s.Accepts sel.model row sel.predicate := by
  rw [select] at h
  obtain ⟨_, _, h⟩ := Checks.bind_ok_iff.1 h
  split at h
  case isTrue void => exact .inl ⟨void, (Checks.pure_ok_iff.1 h).symm⟩
  case isFalse nonvoid =>
    obtain ⟨found, matched, h⟩ := Checks.bind_ok_iff.1 h
    obtain ⟨sorted, ordered, h⟩ := Checks.bind_ok_iff.1 h
    refine .inr ⟨by simpa using nonvoid, sorted, (Checks.pure_ok_iff.1 h).symm, fun row => ?_⟩
    rw [(sorted_perm ordered).mem_iff, mem_matching matched]

theorem accepts_of_mem_select {sel : Selection} {rows : List Row} {row : Row}
    (h : s.select sel = .ok rows) (mem : row ∈ rows) :
    s.Stored sel.model row ∧ s.Accepts sel.model row sel.predicate := by
  rcases select_cases h with ⟨_, rfl⟩ | ⟨_, sorted, rfl, accepted⟩
  · cases mem
  · exact (accepted row).1 (Selection.mem_of_mem_page mem)

theorem mem_select_iff {sel : Selection} {rows : List Row} (offset : sel.offset = 0)
    (limit : sel.limit = none) (h : s.select sel = .ok rows) (row : Row) :
    row ∈ rows ↔ s.Stored sel.model row ∧ s.Accepts sel.model row sel.predicate := by
  rcases select_cases h with ⟨void, rfl⟩ | ⟨_, sorted, rfl, accepted⟩
  · -- without a limit only the predicate can make the selection void
    have nothing : sel.predicate = .nothing := by
      rw [Selection.isVoid, limit, Bool.or_eq_true] at void
      rcases void with void | void
      · cases e : sel.predicate with
        | nothing => rfl
        | _ => rw [e] at void; cases void
      · cases void
    rw [nothing]
    exact iff_of_false List.not_mem_nil fun accepted => not_accepts_nothing accepted.2
  · rw [Selection.page, limit, offset, List.drop_zero]
    exact accepted row

end Store

end GuardedQuery
