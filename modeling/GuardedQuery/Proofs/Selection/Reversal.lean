import GuardedQuery.Proofs.Selection.Windows
import GuardedQuery.Proofs.Value.Order
import Mathlib.Data.List.Induction

/-! Both ends of a sorted list. A list can be sorted the other way round to find its last element at
the head. As equal elements keep their places either way, this succeeds only for an element that all
others stand before. -/

namespace GuardedQuery

namespace Sorting
variable {α : Type} {precedes : α → α → Bool} {xs : List α} {x first last : α}

/-- The elements as they have been inserted, from the last to the first. -/
def placed (precedes : α → α → Bool) (xs : List α) : List α :=
  xs.foldl (fun sorted x => place precedes x sorted) []

theorem placed_append (xs : List α) (x : α) :
    placed precedes (xs ++ [x]) = place precedes x (placed precedes xs) := by
  rw [placed, List.foldl_append]
  rfl

theorem mem_placed : x ∈ placed precedes xs ↔ x ∈ xs := by
  rw [← List.mem_reverse]
  exact mem_sort

theorem head?_place (x last : α) (rest : List α) :
    (place precedes x (last :: rest)).head? = some (if precedes x last then last else x) := by
  rw [place]
  split <;> rfl

/-- An element becomes the first if it moves past all others. -/
theorem getLast?_place (x : α) (xs : List α) : (place precedes x xs).getLast? =
    if xs.all (precedes x) then some x else xs.getLast? := by
  induction xs with
  | nil => rfl
  | cons last rest ih =>
    rw [place]
    cases moves : precedes x last with
    | false => simp [moves, List.getLast?_cons]
    | true =>
      obtain ⟨end', rest', split⟩ : ∃ y ys, place precedes x rest = y :: ys :=
        List.exists_cons_of_ne_nil fun none => by
          simpa [none] using (place_perm precedes x rest).length_eq
      rw [if_pos rfl, split, List.getLast?_cons_cons, ← split, ih, List.all_cons, moves,
        Bool.true_and]
      cases rest with
      | nil => rfl
      | cons y ys => rw [List.getLast?_cons_cons]

/-- Sorted the other way round, a list begins with its last element exactly if all others stand
before that one. -/
theorem placed_ends_meet_iff (asymm : ∀ a b, precedes a b = true → precedes b a = false)
    (distinct : xs.Nodup) (ends : (placed precedes xs).head? = some last)
    (begins : (placed (fun a b => precedes b a) xs).getLast? = some first) :
    first = last ↔ ∀ other ∈ xs, other ≠ last → precedes other last = true := by
  induction xs using List.reverseRecOn generalizing first last with
  | nil => cases ends
  | append_singleton xs x ih =>
    obtain ⟨distinct, -, apart⟩ := List.nodup_append.1 distinct
    have fresh : ∀ other ∈ xs, other ≠ x := fun other mem =>
      apart other mem x (List.mem_singleton_self x)
    rw [placed_append] at ends begins
    rw [getLast?_place] at begins
    cases before : placed precedes xs with
    | nil =>
      obtain rfl : xs = [] := List.eq_nil_iff_forall_not_mem.2 fun y mem => by
        have inside : y ∈ placed precedes xs := mem_placed.2 mem
        rw [before] at inside
        cases inside
      cases ends
      cases begins
      simp
    | cons former rest =>
      rw [before, head?_place, Option.some.injEq] at ends
      have among : former ∈ xs := mem_placed.1 (by rw [before]; exact List.mem_cons_self)
      have ends' : (placed precedes xs).head? = some former := by rw [before]; rfl
      obtain ⟨front, begins'⟩ : ∃ front,
          (placed (fun a b => precedes b a) xs).getLast? = some front :=
        ⟨_, List.getLast?_eq_some_getLast (List.ne_nil_of_mem (mem_placed.2 among))⟩
      have earlier : front ∈ xs := mem_placed.1 (List.mem_of_getLast? begins')
      have ih := ih distinct ends' begins'
      cases behind : precedes x former with
      | true =>
        -- the last element stays, and the new one cannot become the first
        rw [behind, if_pos rfl] at ends
        subst ends
        have kept : ¬ ((placed (fun a b => precedes b a) xs).all fun y => precedes y x) = true :=
          fun all => by
            have := List.all_eq_true.1 all former (mem_placed.2 among)
            rw [asymm x former behind] at this
            cases this
        rw [if_neg kept, begins', Option.some.injEq] at begins
        rw [← begins, ih]
        simp [behind, or_imp, forall_and]
      | false =>
        rw [behind, if_neg nofun] at ends
        subst ends
        have others : (∀ other ∈ xs ++ [x], other ≠ x → precedes other x = true) ↔
            ((placed (fun a b => precedes b a) xs).all fun y => precedes y x) = true := by
          simp only [List.all_eq_true, mem_placed, List.mem_append, List.mem_singleton]
          exact ⟨fun all y mem => all y (.inl mem) (fresh y mem), fun all y mem ne =>
            all y (mem.resolve_right ne)⟩
        rw [others]
        split at begins
        · rename_i all
          exact iff_of_true (Option.some.inj begins).symm all
        · rename_i some
          rw [begins', Option.some.injEq] at begins
          exact iff_of_false (begins ▸ fresh front earlier) some

theorem ends_meet_iff (asymm : ∀ a b, precedes a b = true → precedes b a = false)
    (distinct : xs.Nodup) (ends : (sort precedes xs).getLast? = some last)
    (begins : (sort (fun a b => precedes b a) xs).head? = some first) :
    first = last ↔ ∀ other ∈ xs, other ≠ last → precedes other last = true := by
  rw [sort, List.getLast?_reverse] at ends
  rw [sort, List.head?_reverse] at begins
  exact placed_ends_meet_iff asymm distinct ends begins

end Sorting

/-! Comparing the other way round -/

section
open Float.Model

theorem compare_unpacked_swap (x y : UnpackedFloat) :
    y.compare x = (x.compare y).map Ordering.swap := by
  cases numbers : x.isNaN || y.isNaN with
  | true =>
    rcases Bool.or_eq_true_iff.1 numbers with is | is
    · cases x <;> cases is
      cases y <;> rfl
    · cases y <;> cases is
      cases x <;> rfl
  | false =>
    obtain ⟨hx, hy⟩ := Bool.or_eq_false_iff.1 numbers
    rw [compare_eq_place hx hy, compare_eq_place hy hx, Option.map_some, Std.OrientedOrd.eq_swap]

/-- Undefined fractions are not compared either way. -/
theorem Number.compare?_swap (a b : Number) :
    b.compare? a = (a.compare? b).map Ordering.swap := by
  have fractions (x y : Float) : (if x < y then some Ordering.lt else if x == y then some .eq
      else if y < x then some .gt else none) = x.toModel.unpack.compare y.toModel.unpack := by
    have less (x y : Float) :
        x < y ↔ x.toModel.unpack.compare y.toModel.unpack = some .lt := by
      change decide ((x.toModel.unpack.compare y.toModel.unpack == some .lt) = true) = true ↔ _
      rw [decide_eq_true_iff, beq_iff_eq]
    have same : (x == y) = (x.toModel.unpack.compare y.toModel.unpack == some .eq) := rfl
    simp only [less, same, compare_unpacked_swap x.toModel.unpack]
    cases x.toModel.unpack.compare y.toModel.unpack with
    | none => rfl
    | some o => cases o <;> rfl
  rw [compare?, compare?]
  cases a.word? <;> cases b.word?
  case some.some => exact congrArg some Std.OrientedOrd.eq_swap
  all_goals
    simp only [fractions]
    exact compare_unpacked_swap _ _

end

theorem Value.order_reverse (a b : Value) : b.order a = (a.order b).swap := by
  have within : (b.compare? a).getD .eq = ((a.compare? b).getD .eq).swap := by
    cases a <;> cases b
    case num.num x y =>
      rw [Value.compare?, Value.compare?, Number.compare?_swap]
      cases x.compare? y <;> rfl
    case bool.bool => exact Std.OrientedOrd.eq_swap
    case str.str => exact Std.OrientedOrd.eq_swap
    all_goals rfl
  rw [order, order, within, Ordering.swap_then, Std.OrientedOrd.eq_swap]

namespace OrderTerm

theorem compareKeys_swap (order : List OrderTerm) (as bs : List Value) :
    compareKeys order bs as = (compareKeys order as bs).swap := by
  induction order generalizing as bs with
  | nil => rfl
  | cons term terms ih =>
    cases as <;> cases bs <;> try rfl
    rename_i a as b bs
    rw [compareKeys, compareKeys, ih as bs, Value.order_reverse a b, Ordering.swap_then]
    cases term.descending <;> rfl

/-- With every term reversed, keys are compared the other way round. -/
theorem compareKeys_flip (order : List OrderTerm) (as bs : List Value) :
    compareKeys (order.map flip) as bs = compareKeys order bs as := by
  induction order generalizing as bs with
  | nil => rfl
  | cons term terms ih =>
    cases as <;> cases bs <;> try rfl
    rename_i a as b bs
    rw [List.map_cons, compareKeys, compareKeys, ih as bs, Value.order_reverse a b, flip]
    cases term.descending
    · rfl
    · simp

end OrderTerm

namespace Store
variable {s : Store} {sel : Selection} {rows front : List Row} {row other final : Row}

/-- The row stands before the other one by the order of the selection. -/
def StandsBefore (s : Store) (sel : Selection) (row other : Row) : Prop :=
  ∃ keys keys', s.sortKeys sel.model sel.order row = .ok keys ∧
    s.sortKeys sel.model sel.order other = .ok keys' ∧
    OrderTerm.compareKeys sel.order keys keys' = .lt

/-- The relation by which rows are sorted along with their keys. -/
def before (order : List OrderTerm) (a b : List Value × Row) : Bool :=
  (OrderTerm.compareKeys order a.1 b.1).isLT

theorem before_asymm (order : List OrderTerm) (a b : List Value × Row)
    (less : before order a b = true) : before order b a = false := by
  rw [before] at less ⊢
  rw [OrderTerm.compareKeys_swap order a.1 b.1]
  cases is : OrderTerm.compareKeys order a.1 b.1 <;> rw [is] at less <;> first | rfl | cases less

theorem sortKeys_flip (s : Store) (model : String) (order : List OrderTerm) :
    s.sortKeys model (order.map .flip) = s.sortKeys model order := by
  funext row
  rw [sortKeys, sortKeys, List.mapM_map]
  rfl

/-- Rows with the keys that they are sorted by. -/
def keyed (s : Store) (model : String) (order : List OrderTerm) (rows : List Row) :
    Except Error (List (List Value × Row)) :=
  rows.mapM fun row => return (← s.sortKeys model order row, row)

theorem sorted_eq (s : Store) (model : String) (order : List OrderTerm) (rows : List Row) :
    s.sorted model order rows =
      (s.keyed model order rows).map fun entries =>
        (Sorting.sort (before order) entries).map Prod.snd := by
  rw [sorted, ← keyed]
  cases s.keyed model order rows <;> rfl

theorem sorted_flip (s : Store) (model : String) (order : List OrderTerm) (rows : List Row) :
    s.sorted model (order.map .flip) rows =
      (s.keyed model order rows).map fun entries =>
        (Sorting.sort (fun a b => before order b a) entries).map Prod.snd := by
  have converse : before (order.map .flip) = fun a b => before order b a := by
    funext a b
    rw [before, before, OrderTerm.compareKeys_flip]
  rw [sorted_eq, converse, keyed, keyed, sortKeys_flip]

theorem mem_keyed {model : String} {order : List OrderTerm} {entries : List (List Value × Row)}
    (made : s.keyed model order rows = .ok entries) {entry : List Value × Row}
    (mem : entry ∈ entries) : s.sortKeys model order entry.2 = .ok entry.1 := by
  obtain ⟨row, _, here⟩ := Checks.exists_of_mapM_ok made mem
  obtain ⟨keys, found, is⟩ := Checks.bind_ok_iff.1 here
  rw [← Checks.pure_ok_iff.1 is]
  exact found

theorem keyed_rows {model : String} {order : List OrderTerm} {entries : List (List Value × Row)}
    (made : s.keyed model order rows = .ok entries) : entries.map Prod.snd = rows := by
  refine Checks.map_of_mapM_ok (fun row entry keyedRow => ?_) made
  obtain ⟨keys, _, is⟩ := Checks.bind_ok_iff.1 keyedRow
  rw [← Checks.pure_ok_iff.1 is]

/-- A selection that yields rows has sorted those that match, and sorts them the other way round
when it is reversed. -/
theorem select_reversed (free : sel.Unbounded) (ordered : sel.order ≠ [])
    (selected : s.select sel = .ok rows) (some : rows ≠ []) : ∃ found entries,
      s.matching sel.model sel.predicate = .ok found ∧
      s.keyed sel.model sel.order found = .ok entries ∧
      rows = (Sorting.sort (before sel.order) entries).map Prod.snd ∧
      s.select sel.reversed =
        .ok ((Sorting.sort (fun a b => before sel.order b a) entries).map Prod.snd) := by
  rw [select] at selected
  obtain ⟨m, known, selected⟩ := Checks.bind_ok_iff.1 selected
  split at selected
  · exact absurd (Checks.pure_ok_iff.1 selected).symm some
  rename_i wide
  obtain ⟨found, matched, selected⟩ := Checks.bind_ok_iff.1 selected
  obtain ⟨sorted, sorts, selected⟩ := Checks.bind_ok_iff.1 selected
  rw [Checks.pure_ok_iff, free.page] at selected
  obtain ⟨entries, made, is⟩ : ∃ entries, s.keyed sel.model sel.order found = .ok entries ∧
      (Sorting.sort (before sel.order) entries).map Prod.snd = sorted := by
    rw [sorted_eq] at sorts
    cases made : s.keyed sel.model sel.order found with
    | error fault =>
      rw [made] at sorts
      cases sorts
    | ok entries =>
      rw [made] at sorts
      exact ⟨entries, rfl, Except.ok.inj sorts⟩
  refine ⟨found, entries, matched, made, by rw [← selected, is], ?_⟩
  have turned : sel.reversed.order = sel.order.map .flip := by
    rw [Selection.reversed, if_neg (by simpa using ordered)]
  have resorted : s.sorted sel.model sel.reversed.order found =
      .ok ((Sorting.sort (fun a b => before sel.order b a) entries).map Prod.snd) := by
    rw [turned, sorted_flip, made]
    rfl
  have free' : sel.reversed.Unbounded := ⟨free.offset, free.limit⟩
  refine Checks.bind_ok_iff.2 ⟨m, known, (if_neg wide).trans ?_⟩
  refine Checks.bind_ok_iff.2 ⟨found, matched, Checks.bind_ok_iff.2 ⟨_, resorted, ?_⟩⟩
  rw [free'.page]
  rfl

/-- Rows of a table that is indexed are found once. -/
theorem nodup_matching (indexed : s.Indexed) {model : String} {p : Predicate}
    (matched : s.matching model p = .ok rows) : rows.Nodup := by
  rw [matching] at matched
  obtain ⟨all, stored, kept⟩ := Checks.bind_ok_iff.1 matched
  obtain ⟨m, known, stored⟩ := Checks.bind_ok_iff.1 stored
  rw [← Checks.pure_ok_iff.1 stored] at kept
  have table := indexed.table known
  have distinct : (s.table model).values.Nodup :=
    List.Nodup.map_on (fun a ha b hb same => table.eq_of_row ha hb same)
      (List.Nodup.of_map _ table.nodup_numbers)
  rw [keepIf_eq_filter kept]
  exact distinct.filter _

theorem standsBefore_iff {a b : List Value × Row}
    (left : s.sortKeys sel.model sel.order a.2 = .ok a.1)
    (right : s.sortKeys sel.model sel.order b.2 = .ok b.1) :
    s.StandsBefore sel a.2 b.2 ↔ before sel.order a b = true := by
  rw [before, Ordering.isLT_iff_eq_lt]
  constructor
  · rintro ⟨keys, keys', found, found', less⟩
    rw [Except.ok.inj (left.symm.trans found), Except.ok.inj (right.symm.trans found')]
    exact less
  · exact fun less => ⟨a.1, b.1, left, right, less⟩

/-- A reversed selection begins with the last row exactly if that row stands behind all others. -/
theorem select_reversed_iff (indexed : s.Indexed) (free : sel.Unbounded) (ordered : sel.order ≠ [])
    (selected : s.select sel = .ok (front ++ [final])) :
    ∃ first others, s.select sel.reversed = .ok (first :: others) ∧ first ∈ front ++ [final] ∧
      (first = final ↔ ∀ other ∈ front, s.StandsBefore sel other final) := by
  obtain ⟨found, entries, matched, made, rows, reversed⟩ :=
    select_reversed free ordered selected (by simp)
  have rows' : (entries.map Prod.snd).Nodup := by
    rw [keyed_rows made]
    exact nodup_matching indexed matched
  have distinct : entries.Nodup := rows'.of_map
  obtain ⟨ahead, tail, split, rfl, single⟩ := List.map_eq_append_iff.1 rows.symm
  obtain ⟨last, rfl, rfl⟩ := List.map_eq_singleton_iff.1 single
  obtain ⟨first, others, split'⟩ : ∃ first others,
      Sorting.sort (fun a b => before sel.order b a) entries = first :: others := by
    refine List.exists_cons_of_length_pos ?_
    rw [Sorting.length_sort, ← Sorting.length_sort (before sel.order), split]
    simp
  have keys {entry : List Value × Row} (mem : entry ∈ ahead ++ [last]) :
      s.sortKeys sel.model sel.order entry.2 = .ok entry.1 :=
    mem_keyed made (Sorting.mem_sort.1 (split ▸ mem))
  have once : ∀ a ∈ entries, ∀ b ∈ entries, a.2 = b.2 → a = b := fun a ha b hb =>
    List.inj_on_of_nodup_map rows' ha hb
  have inside : first ∈ ahead ++ [last] := by
    rw [← split, Sorting.mem_sort, ← Sorting.mem_sort, split']
    exact List.mem_cons_self
  have meet := Sorting.ends_meet_iff (before_asymm sel.order) distinct
    (by rw [split, List.getLast?_concat]) (by rw [split', List.head?_cons])
  refine ⟨first.2, others.map Prod.snd, by rw [reversed, split', List.map_cons], ?_, ?_⟩
  · rw [← List.map_singleton, ← List.map_append]
    exact List.mem_map_of_mem inside
  have listed {entry : List Value × Row} : entry ∈ entries ↔ entry ∈ ahead ++ [last] := by
    rw [← split, Sorting.mem_sort]
  have apart : ∀ entry ∈ ahead, entry ≠ last := fun entry mem => by
    have unique := (Sorting.sort_perm (before sel.order) entries).nodup_iff.2 distinct
    rw [split, List.nodup_append] at unique
    exact unique.2.2 entry mem last (List.mem_singleton_self last)
  have own : first.2 = last.2 ↔ first = last :=
    ⟨once first (listed.2 inside) last (listed.2 (by simp)), congrArg Prod.snd⟩
  rw [own, meet, List.forall_mem_map]
  constructor
  · intro all entry mem
    have among : entry ∈ ahead ++ [last] := List.mem_append_left _ mem
    exact (standsBefore_iff (keys among) (keys (by simp))).2
      (all entry (listed.2 among) (apart entry mem))
  · intro all entry mem other
    have early : entry ∈ ahead := by
      rcases List.mem_append.1 (listed.1 mem) with early | late
      · exact early
      · exact absurd (List.mem_singleton.1 late) other
    exact (standsBefore_iff (keys (listed.1 mem)) (keys (by simp))).1 (all entry early)

end Store

end GuardedQuery
