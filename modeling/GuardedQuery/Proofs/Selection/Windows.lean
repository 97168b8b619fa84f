import GuardedQuery.Plan
import GuardedQuery.Proofs.Selection.Rows
import GuardedQuery.Proofs.Store.Effects
import GuardedQuery.Proofs.Store.Totality

/-! Windows. The selection of a query has none; one is cut out of it where few rows are wanted, and
it takes the first of them. A window within a window takes the part of a part. A window that is not
filled tells of every stored row whether it has been selected or turned down, and one row that is
accepted among rows that are turned down is found. -/

namespace GuardedQuery

namespace Selection
variable {α : Type} {sel : Selection}

/-- The selection cut down to a window within its own. -/
def inner (sel : Selection) (offset : Nat) (limit : Option Nat) : Selection :=
  { sel with offset := sel.offset + offset, limit := innerLimit offset sel.limit limit }

/-- The inner window takes its part of the page. -/
theorem page_inner (sel : Selection) (offset : Nat) (limit : Option Nat) (rows : List α) :
    (sel.inner offset limit).page rows = limit.elim id List.take ((sel.page rows).drop offset) := by
  rw [page, page, inner]
  cases sel.limit with
  | none => cases limit <;> simp [innerLimit, List.drop_drop]
  | some room =>
    cases limit <;> simp [innerLimit, List.drop_drop, List.drop_take, List.take_take, Nat.min_comm]

/-- A window is cut where its start is a word. -/
theorem window_ok_iff {offset : Nat} {limit : Option Nat} {windowed : Selection} :
    sel.window offset limit = .ok windowed ↔
      sel.offset + offset < offsetLimit ∧ sel.inner offset limit = windowed := by
  rw [window, inner]
  split
  case isTrue word => rw [Except.ok.injEq, and_iff_right word]
  case isFalse far => simp [far]

theorem isVoid_inner (sel : Selection) {offset : Nat} {limit : Option Nat}
    (void : sel.isVoid = true) : (sel.inner offset limit).isVoid = true := by
  rw [isVoid, Bool.or_eq_true] at void ⊢
  refine void.imp_right fun closed => ?_
  rw [inner, eq_of_beq closed]
  cases limit <;> simp [innerLimit]

theorem page_of_isVoid {rows : List α} (void : sel.isVoid = true)
    (satisfiable : sel.predicate.isNothing = false) : sel.page rows = [] := by
  rw [isVoid, satisfiable, Bool.false_or] at void
  rw [page, eq_of_beq void]
  rfl

end Selection

/-- The selection has no window. -/
structure Selection.Unbounded (sel : Selection) : Prop where
  offset : sel.offset = 0
  limit : sel.limit = none

theorem Selection.Unbounded.narrow {sel : Selection} (free : sel.Unbounded) (p : Predicate) :
    (sel.narrow p).Unbounded := ⟨free.offset, free.limit⟩

/-- A window within a selection without one has the bounds of its own. -/
theorem Selection.Unbounded.inner {sel : Selection} (free : sel.Unbounded) (offset : Nat)
    (limit : Option Nat) : sel.inner offset limit = { sel with offset, limit } := by
  rw [Selection.inner, free.offset, Nat.zero_add, free.limit]
  cases limit <;> rfl

theorem Selection.Unbounded.cut {sel : Selection} (free : sel.Unbounded) {offset : Nat}
    (word : offset < offsetLimit) (limit : Option Nat) :
    sel.window offset limit = .ok { sel with offset, limit } :=
  window_ok_iff.2 ⟨by rwa [free.offset, Nat.zero_add], free.inner offset limit⟩

theorem Selection.Unbounded.window {sel : Selection} (free : sel.Unbounded) (limit : Option Nat) :
    sel.window 0 limit = .ok { sel with limit } := by
  rw [free.cut (by decide), ← free.offset]

theorem Selection.Unbounded.page {α : Type} {sel : Selection} (free : sel.Unbounded)
    (rows : List α) : sel.page rows = rows := by
  rw [Selection.page, free.limit, free.offset]
  rfl

theorem Model.unbounded_scope (m : Model) (request : Request) (model : String) :
    (m.scope request (.ofModel model)).Unbounded := by
  have hides (guards : List Guard) (sel : Selection) (free : sel.Unbounded) :
      (guards.foldl (fun sel g => sel.without (g.hidden request)) sel).Unbounded := by
    induction guards generalizing sel with
    | nil => exact free
    | cons g rest ih => exact ih _ (free.narrow _)
  have all : (Selection.ofModel model).Unbounded := ⟨rfl, rfl⟩
  rw [scope]
  split
  · exact all
  · exact hides _ _ (all.narrow _)

/-- The selection of a query is not bounded; its page is cut out later. -/
theorem Access.unbounded_selection {a : Access} {model : String} {q : Query} {sel : Selection}
    (selected : a.selection model q = .ok sel) : sel.Unbounded := by
  rw [selection] at selected
  obtain ⟨m, _, selected⟩ := Checks.bind_ok_iff.1 selected
  obtain ⟨filter, _, selected⟩ := Checks.bind_ok_iff.1 selected
  have searched : (a.narrowBySearch m q.search
      ((m.scope a.request (.ofModel model)).narrow filter)).Unbounded := by
    have narrowed := (m.unbounded_scope a.request model).narrow filter
    rw [narrowBySearch]
    split
    · exact narrowed.narrow _
    · exact narrowed
  have arranged {base : Selection} (free : base.Unbounded)
      (h : (pure (((if q.order.isEmpty then base else base.orderedBy (q.order.map .read)).joining
        q.joined).preloading q.preloaded) : Except Error Selection) = .ok sel) :
      sel.Unbounded := by
    rw [← Checks.pure_ok_iff.1 h]
    split <;> exact ⟨free.offset, free.limit⟩
  by_cases blank : q.exclude.isEmpty = true
  · rw [if_pos blank] at selected
    exact arranged searched selected
  · rw [if_neg blank] at selected
    obtain ⟨exclude, _, selected⟩ := Checks.bind_ok_iff.1 selected
    exact arranged (searched.narrow _) selected

namespace Store
variable {s : Store} {model : String} {m : Model} {sel : Selection} {rows front : List Row}
  {row : Row}

/-- A window within the present one takes its part of the rows. -/
theorem select_inner (selected : s.select sel = .ok rows) (offset : Nat) (limit : Option Nat) :
    s.select (sel.inner offset limit) = .ok (limit.elim id List.take (rows.drop offset)) := by
  rw [select] at selected ⊢
  obtain ⟨m, known, selected⟩ := Checks.bind_ok_iff.1 selected
  refine Checks.bind_ok_iff.2 ⟨m, known, ?_⟩
  split at selected
  case isTrue void =>
    rw [if_pos (sel.isVoid_inner void), ← Checks.pure_ok_iff.1 selected, List.drop_nil]
    cases limit with
    | none => rfl
    | some n => exact congrArg Except.ok List.take_nil.symm
  case isFalse wide =>
    obtain ⟨found, matched, selected⟩ := Checks.bind_ok_iff.1 selected
    obtain ⟨sorted, ordered, selected⟩ := Checks.bind_ok_iff.1 selected
    rw [← Checks.pure_ok_iff.1 selected, ← Selection.page_inner]
    split
    case isTrue void =>
      -- the predicate can hold, so it is the inner window that has no room
      obtain ⟨satisfiable, _⟩ : sel.predicate.isNothing = false ∧ ¬ sel.limit = some 0 := by
        simpa [Selection.isVoid] using wide
      rw [Selection.page_of_isVoid void satisfiable]
      rfl
    case isFalse =>
      exact Checks.bind_ok_iff.2 ⟨found, matched, Checks.bind_ok_iff.2 ⟨sorted, ordered, rfl⟩⟩

/-- A window takes its part of the rows. -/
theorem select_window (free : sel.Unbounded) (selected : s.select sel = .ok rows) (offset : Nat)
    (limit : Option Nat) :
    s.select { sel with offset, limit } = .ok ({ sel with offset, limit }.page rows) := by
  have within := select_inner selected offset limit
  rw [free.inner] at within
  rw [within]
  cases limit <;> rfl

/-- A window at the start takes the first of the rows. -/
theorem select_limited (free : sel.Unbounded) (n : Nat) (selected : s.select sel = .ok rows) :
    s.select { sel with limit := some n } = .ok (rows.take n) := by
  have start := select_window free selected sel.offset (some n)
  rwa [Selection.page, free.offset, List.drop_zero, ← free.offset] at start

theorem exists_sorted_nil (s : Store) (model : String) (rows : List Row) :
    ∃ sorted, s.sorted model [] rows = .ok sorted := by
  have keys (row : Row) : ∃ entry, (do return (← s.sortKeys model [] row, row)) =
      (.ok entry : Except Error (List Value × Row)) := ⟨([], row), rfl⟩
  obtain ⟨keyed, made⟩ := Checks.exists_mapM_ok fun row (_ : row ∈ rows) => keys row
  rw [Store.sorted, made]
  exact ⟨_, rfl⟩

/-- Without an order the same rows are selected. -/
theorem select_whole (free : sel.Unbounded) (selected : s.select sel = .ok rows) :
    ∃ found, s.select sel.whole = .ok found ∧ found.Perm rows := by
  rw [select] at selected
  obtain ⟨m, known, selected⟩ := Checks.bind_ok_iff.1 selected
  have same : sel.whole.isVoid = sel.isVoid := by
    simp only [Selection.isVoid, Selection.whole, free.limit]
  rw [select, Selection.whole_model, known, same]
  split at selected
  case isTrue void =>
    rw [if_pos void, ← Checks.pure_ok_iff.1 selected]
    exact ⟨[], rfl, .nil⟩
  case isFalse wide =>
    rw [if_neg wide]
    obtain ⟨found, matched, selected⟩ := Checks.bind_ok_iff.1 selected
    obtain ⟨sorted, ordered, selected⟩ := Checks.bind_ok_iff.1 selected
    obtain ⟨again, ordered'⟩ := exists_sorted_nil s sel.model found
    refine ⟨found, ?_, ?_⟩
    · rw [Selection.whole_predicate, matched]
      change (s.sorted sel.model [] found >>= fun sorted => pure (sel.whole.page sorted)) = _
      rw [ordered', sorted_nil ordered']
      rfl
    · rw [← Checks.pure_ok_iff.1 selected, free.page]
      exact (sorted_perm ordered).symm

theorem exists_of_keepIf {test : Row → Except Error Bool} {kept : List Row}
    (done : keepIf test rows = .ok kept) (mem : row ∈ rows) : ∃ b, test row = .ok b := by
  induction rows generalizing kept with
  | nil => cases mem
  | cons first rest ih =>
    rw [keepIf] at done
    obtain ⟨b, here, done⟩ := Checks.bind_ok_iff.1 done
    obtain ⟨others, further, _⟩ := Checks.bind_ok_iff.1 done
    rcases List.mem_cons.1 mem with rfl | later
    · exact ⟨b, here⟩
    · exact ih further later

theorem keepIf_last {test : Row → Except Error Bool}
    (others : ∀ other ∈ front, test other = .ok false)
    (last : test row = .ok true) : keepIf test (front ++ [row]) = .ok [row] := by
  induction front with
  | nil =>
    rw [List.nil_append, keepIf, last]
    rfl
  | cons first rest ih =>
    obtain ⟨here, others⟩ := List.forall_mem_cons.1 others
    rw [List.cons_append, keepIf, here, ih others]
    rfl

/-- A window that is not filled leaves no selected row out, so all others have been turned down. -/
theorem mem_or_rejects_of_select (selected : s.select sel = .ok rows) (offset : sel.offset = 0)
    {limit : Nat} (limited : sel.limit = some limit) (short : rows.length < limit)
    (stored : s.Stored sel.model row) : row ∈ rows ∨ s.Rejects sel.model row sel.predicate := by
  rw [select] at selected
  obtain ⟨_, _, selected⟩ := Checks.bind_ok_iff.1 selected
  split at selected
  case isTrue void =>
    right
    have wide : (some limit == some 0) = false := by
      simpa using Nat.ne_of_gt (Nat.lt_of_le_of_lt (Nat.zero_le _) short)
    rw [Selection.isVoid, limited, wide, Bool.or_false] at void
    cases same : sel.predicate with
    | nothing => rw [Rejects, holds]
    | all | cond | and | or | not =>
      rw [same] at void
      cases void
  case isFalse =>
    obtain ⟨found, matched, selected⟩ := Checks.bind_ok_iff.1 selected
    obtain ⟨sorted, ordered, selected⟩ := Checks.bind_ok_iff.1 selected
    have cut := Checks.pure_ok_iff.1 selected
    rw [Selection.page, limited, offset, List.drop_zero] at cut
    simp only at cut
    have whole : sorted = rows := by
      rw [← cut, List.length_take] at short
      rw [← cut, List.take_of_length_le (by omega)]
    have listed := mem_matching matched row
    rw [← (sorted_perm ordered).mem_iff, whole] at listed
    obtain ⟨all, known, kept⟩ := Checks.bind_ok_iff.1 matched
    obtain ⟨_, _, same⟩ := Checks.bind_ok_iff.1 known
    rw [← Checks.pure_ok_iff.1 same] at kept
    obtain ⟨b, held⟩ := exists_of_keepIf kept stored
    cases b with
    | true => exact .inl (listed.2 ⟨stored, held⟩)
    | false => exact .inr held

/-- Where only the last row is accepted, it is all that is selected. -/
theorem select_last (closed : s.catalog.Closed) (known : s.model sel.model = .ok m)
    (values : (s.table sel.model).values = front ++ [row])
    (others : ∀ other ∈ front, s.Rejects sel.model other sel.predicate)
    (last : s.Accepts sel.model row sel.predicate) (offset : sel.offset = 0) {limit : Nat}
    (limited : sel.limit = some (limit + 1)) : s.select sel = .ok [row] := by
  have open' : sel.isVoid = false := by
    rw [Selection.isVoid, limited]
    cases same : sel.predicate with
    | nothing =>
      rw [same] at last
      exact absurd last not_accepts_nothing
    | all | cond | and | or | not => rfl
  have matched : s.matching sel.model sel.predicate = .ok [row] := by
    simp only [matching, Store.rows, known, bind, Except.bind, pure, Except.pure, values]
    exact keepIf_last others last
  obtain ⟨sorted, ordered⟩ := exists_sorted closed known sel.order [row]
  obtain rfl : sorted = [row] := List.perm_singleton.1 (sorted_perm ordered)
  rw [select, known, matched]
  simp only [open', bind, Except.bind, pure, Except.pure, Bool.false_eq_true, if_false, ordered,
    Selection.page, limited, offset, List.drop_zero, List.take_succ_cons, List.take_nil]

end Store

/-! Windows within windows. Limits stop at zero and at each other, but starts are added up and can
leave the range of a word. -/

namespace Store
variable {s : Store} {sel outer : Selection} {offset : Nat} {limit : Option Nat} {rows : List Row}

/-- A window within a window takes its part of the rows that the outer one has, exactly if the sum
of all starts is a word. Otherwise it cannot be cut, even where no row is left that far behind. -/
theorem windows_compose_iff (cut : sel.window offset limit = .ok outer)
    (selected : s.select outer = .ok rows) (skipped : Nat) (room : Option Nat) :
    ((∃ inner, outer.window skipped room = .ok inner ∧
        s.select inner = .ok (room.elim id List.take (rows.drop skipped))) ↔
      sel.offset + offset + skipped < Selection.offsetLimit) ∧
    (Selection.offsetLimit ≤ sel.offset + offset + skipped →
      outer.window skipped room = .error .overflow) := by
  have start : outer.offset = sel.offset + offset := by
    rw [← (Selection.window_ok_iff.1 cut).2]
    rfl
  rw [← start]
  constructor
  · constructor
    · rintro ⟨inner, within, _⟩
      exact (Selection.window_ok_iff.1 within).1
    · intro word
      exact ⟨_, Selection.window_ok_iff.2 ⟨word, rfl⟩, select_inner selected skipped room⟩
  · intro far
    rw [Selection.window, if_neg (Nat.not_lt.2 far)]

end Store

namespace Shelf

def book : Model := Model.ofSchema ((Schema.ofKey "book" "id").withField ⟨"title", .scalar⟩)

def catalog : Catalog := ⟨.ofList [("book", book)]⟩

def titled (id : Int) (title : String) : Row := [("id", .int id), ("title", .str title)]

def books : List Row := [titled 1 "Emma", titled 2 "Ulysses", titled 3 "Walden", titled 4 "Dracula"]

def store : Store := ((Store.ofCatalog catalog).answer (.insertMany "book" books)).2

/-- No book stands at the end of the words, and none can be asked for behind it. -/
theorem far_books_are_out_of_reach :
    ∃ outer, (Selection.ofModel "book").window 0xffffffffffffffff none = .ok outer ∧
      store.select outer = .ok [] ∧ outer.window 1 none = .error .overflow := by
  have all : store.select (.ofModel "book") = .ok books := rfl
  have behind := Store.select_inner all 0xffffffffffffffff none
  rw [List.drop_eq_nil_of_le (by decide)] at behind
  exact ⟨_, Selection.window_ok_iff.2 ⟨by decide, rfl⟩, behind, if_neg (by decide)⟩

/-- Behind the first of three books there are two more, though there is room for nine. -/
theorem shelf_is_cut_twice :
    ∃ outer inner, (Selection.ofModel "book").window 1 (some 3) = .ok outer ∧
      store.select outer = .ok [titled 2 "Ulysses", titled 3 "Walden", titled 4 "Dracula"] ∧
      outer.window 1 (some 9) = .ok inner ∧
      store.select inner = .ok [titled 3 "Walden", titled 4 "Dracula"] := by
  have cut : (Selection.ofModel "book").window 1 (some 3) =
      .ok { Selection.ofModel "book" with offset := 1, limit := some 3 } := rfl
  have selected : store.select { Selection.ofModel "book" with offset := 1, limit := some 3 } =
      .ok [titled 2 "Ulysses", titled 3 "Walden", titled 4 "Dracula"] := rfl
  obtain ⟨inner, within, rest⟩ :=
    (Store.windows_compose_iff cut selected 1 (some 9)).1.2 (by decide)
  exact ⟨_, inner, cut, selected, within, rest⟩

end Shelf

end GuardedQuery
