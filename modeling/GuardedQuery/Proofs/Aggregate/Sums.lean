import GuardedQuery.Proofs.Checks
import GuardedQuery.Store.Script
import Mathlib

/-! Sums of words. They are exact as long as no sum on the way leaves the words, and are computed
with fractions otherwise. Which sums come up on the way is a matter of the order. In some order of
words with a total among the words all of them are words, and in every order they are iff the sum of
the positive and the sum of the negative ones are. -/

namespace GuardedQuery

/-- The words have no gaps. -/
theorem fitsWord_of_between {low high i : Int} (first : fitsWord low = true)
    (last : fitsWord high = true) (above : low ≤ i) (below : i ≤ high) : fitsWord i = true := by
  rw [fitsWord_iff] at first last ⊢
  omega

/-! Sums on the way -/

namespace Sums

/-- Every sum on the way through a list is a word. -/
def Fit (xs : List Int) : Prop := ∀ front, front <+: xs → fitsWord front.sum = true

def gains (xs : List Int) : Int := (xs.filter (0 < ·)).sum

def losses (xs : List Int) : Int := (xs.filter (· < 0)).sum

variable {xs ys : List Int}

@[simp] theorem gains_cons (x : Int) (xs : List Int) : gains (x :: xs) = max x 0 + gains xs := by
  by_cases positive : 0 < x
  · simp [gains, positive, Int.max_eq_left (Int.le_of_lt positive)]
  · simp [gains, positive, Int.max_eq_right (Int.not_lt.1 positive)]

@[simp] theorem losses_cons (x : Int) (xs : List Int) :
    losses (x :: xs) = min x 0 + losses xs := by
  by_cases negative : x < 0
  · simp [losses, negative, Int.min_eq_left (Int.le_of_lt negative)]
  · simp [losses, negative, Int.min_eq_right (Int.not_lt.1 negative)]

theorem gains_perm (h : ys.Perm xs) : gains ys = gains xs := (h.filter _).sum_eq

theorem losses_perm (h : ys.Perm xs) : losses ys = losses xs := (h.filter _).sum_eq

/-- A part of a list gains no more than the whole, and loses no more. -/
theorem sum_between (h : ys.Sublist xs) : losses xs ≤ ys.sum ∧ ys.sum ≤ gains xs := by
  induction h with
  | slnil => exact ⟨Int.le_refl _, Int.le_refl _⟩
  | cons x _ ih =>
    rw [gains_cons, losses_cons]
    omega
  | cons_cons x _ ih =>
    rw [gains_cons, losses_cons, List.sum_cons]
    omega

/-- With the positive words in front all gains come up on the way, and with the negative ones all
losses. -/
theorem fit_in_every_order_iff (xs : List Int) :
    (∀ ys, ys.Perm xs → Fit ys) ↔
      fitsWord (gains xs) = true ∧ fitsWord (losses xs) = true := by
  constructor
  · intro all
    constructor
    · exact all _ (List.filter_append_perm (0 < ·) xs) _ (List.prefix_append _ _)
    · exact all _ (List.filter_append_perm (· < 0) xs) _ (List.prefix_append _ _)
  · rintro ⟨gained, lost⟩ ys same front inside
    rw [← gains_perm same] at gained
    rw [← losses_perm same] at lost
    obtain ⟨above, below⟩ := sum_between inside.sublist
    exact fitsWord_of_between lost gained above below

/-- Below zero a positive summand does no harm, and from zero on a negative one. If there is none,
all summands lead towards the total. -/
theorem exists_fitting_summand (words : ∀ x ∈ xs, fitsWord x = true) (nonempty : xs ≠ [])
    {start : Int} (begins : fitsWord start = true) (ends : fitsWord (start + xs.sum) = true) :
    ∃ x ∈ xs, fitsWord (start + x) = true := by
  obtain ⟨first, mem⟩ := List.exists_mem_of_ne_nil xs nonempty
  have total : first + (xs.erase first).sum = xs.sum := by
    rw [← List.sum_cons, (List.perm_cons_erase mem).sum_eq]
  obtain ⟨lost, gained⟩ := sum_between (List.erase_sublist (a := first) (l := xs))
  by_cases positive : 0 ≤ start
  · by_cases down : ∃ x ∈ xs, x ≤ 0
    · obtain ⟨x, among, low⟩ := down
      exact ⟨x, among, fitsWord_of_between (words x among) begins (by omega) (by omega)⟩
    · have up (x : Int) (among : x ∈ xs) : 0 < x := Int.not_le.1 fun low => down ⟨x, among, low⟩
      have none : losses xs = 0 := by
        rw [losses,
          List.filter_eq_nil_iff.2 fun x among => by simpa using Int.le_of_lt (up x among)]
        rfl
      have here := up first mem
      exact ⟨first, mem, fitsWord_of_between begins ends (by omega) (by omega)⟩
  · by_cases up : ∃ x ∈ xs, 0 ≤ x
    · obtain ⟨x, among, high⟩ := up
      exact ⟨x, among, fitsWord_of_between begins (words x among) (by omega) (by omega)⟩
    · have down (x : Int) (among : x ∈ xs) : x < 0 := Int.not_le.1 fun high => up ⟨x, among, high⟩
      have none : gains xs = 0 := by
        rw [gains,
          List.filter_eq_nil_iff.2 fun x among => by simpa using Int.le_of_lt (down x among)]
        rfl
      have here := down first mem
      exact ⟨first, mem, fitsWord_of_between ends begins (by omega) (by omega)⟩

/-- From a word to a word there is a way through words. The induction is on the number of summands
that are left. -/
theorem exists_fitting_order (words : ∀ x ∈ xs, fitsWord x = true) (start : Int)
    (begins : fitsWord start = true) (ends : fitsWord (start + xs.sum) = true) :
    ∃ ys, ys.Perm xs ∧ ∀ front, front <+: ys → fitsWord (start + front.sum) = true := by
  induction size : xs.length generalizing xs start with
  | zero =>
    obtain rfl := List.length_eq_zero_iff.1 size
    refine ⟨[], .nil, fun front inside => ?_⟩
    rw [List.prefix_nil.1 inside]
    simpa using begins
  | succ n ih =>
    have nonempty : xs ≠ [] := by
      rintro rfl
      cases size
    obtain ⟨x, mem, fits⟩ := exists_fitting_summand words nonempty begins ends
    have split := List.perm_cons_erase mem
    have total : x + (xs.erase x).sum = xs.sum := by rw [← List.sum_cons, split.sum_eq]
    have others (y : Int) (among : y ∈ xs.erase x) : fitsWord y = true :=
      words y (List.mem_of_mem_erase among)
    obtain ⟨ys, same, fit⟩ := ih others (start + x) fits
      (by rw [Int.add_assoc, total]; exact ends)
      (by rw [List.length_erase_of_mem mem, size]; rfl)
    refine ⟨x :: ys, (same.cons x).trans split.symm, fun front inside => ?_⟩
    cases front with
    | nil => simpa using begins
    | cons first rest =>
      obtain ⟨rfl, further⟩ := List.cons_prefix_cons.1 inside
      rw [List.sum_cons, ← Int.add_assoc]
      exact fit rest further

end Sums

namespace Aggregate
variable {xs ys : List Int}

open Sums

/-! The fold over the summands -/

/-- One summand more: nothing once a sum has left the words. -/
def addWord (total : Option Int) (n : Number) : Option Int := do
  let sum := (← total) + (← n.word?)
  if fitsWord sum then some sum else none

theorem wordSum?_eq (ns : List Number) : wordSum? ns = ns.foldl addWord (some 0) := rfl

theorem foldl_addWord_none (ns : List Number) : ns.foldl addWord none = none := by
  induction ns with
  | nil => rfl
  | cons n rest ih => exact ih

theorem addWord_int {i : Int} (word : fitsWord i = true) (start : Int) :
    addWord (some start) (.int i) = if fitsWord (start + i) then some (start + i) else none := by
  rw [addWord, Number.word?_int word]
  rfl

/-- From a word on, the fold keeps the sum as long as it remains a word. -/
theorem foldl_addWord_iff (words : ∀ x ∈ xs, fitsWord x = true) {start : Int}
    (begins : fitsWord start = true) {total : Int} :
    (xs.map Number.int).foldl addWord (some start) = some total ↔
      total = start + xs.sum ∧ ∀ front, front <+: xs → fitsWord (start + front.sum) = true := by
  induction xs generalizing start with
  | nil =>
    have through : ∀ front, front <+: ([] : List Int) → fitsWord (start + front.sum) = true := by
      intro front inside
      rw [List.prefix_nil.1 inside]
      simpa using begins
    simp only [List.map_nil, List.foldl_nil, Option.some.injEq, List.sum_nil, Int.add_zero]
    exact ⟨fun same => ⟨same.symm, through⟩, fun h => h.1.symm⟩
  | cons x rest ih =>
    obtain ⟨word, words⟩ := List.forall_mem_cons.1 words
    rw [List.map_cons, List.foldl_cons, addWord_int word]
    by_cases fits : fitsWord (start + x) = true
    · rw [if_pos fits, ih words fits, List.sum_cons, Int.add_assoc]
      refine and_congr_right fun _ => ⟨fun fit front inside => ?_, fun fit front inside => ?_⟩
      · cases front with
        | nil => simpa using begins
        | cons first others =>
          obtain ⟨rfl, further⟩ := List.cons_prefix_cons.1 inside
          rw [List.sum_cons, ← Int.add_assoc]
          exact fit others further
      · have longer := fit (x :: front) (List.cons_prefix_cons.2 ⟨rfl, inside⟩)
        rwa [List.sum_cons, ← Int.add_assoc] at longer
    · rw [if_neg fits, foldl_addWord_none]
      refine iff_of_false nofun fun ⟨_, fit⟩ => fits ?_
      simpa using fit [x] ⟨rest, rfl⟩

theorem wordSum?_eq_some_iff (words : ∀ x ∈ xs, fitsWord x = true) {total : Int} :
    wordSum? (xs.map Number.int) = some total ↔ total = xs.sum ∧ Fit xs := by
  rw [wordSum?_eq, foldl_addWord_iff words rfl]
  simp only [Int.zero_add, Fit]

theorem numbers_int (a : Aggregate) (field : String) (xs : List Int) :
    a.numbers field (xs.map Value.int) = .ok (xs.map Number.int) := by
  induction xs with
  | nil => rfl
  | cons x rest ih =>
    rw [List.map_cons, numbers, List.mapM_cons]
    rw [numbers] at ih
    rw [ih]
    rfl

theorem sumOf_eq_int_iff (ns : List Number) (total : Int) :
    sumOf ns = .int total ↔ wordSum? ns = some total := by
  rw [sumOf]
  cases wordSum? ns with
  | some other => simp [Value.int]
  | none =>
    refine iff_of_false (fun same => ?_) nofun
    simp only [Value.float] at same
    by_cases finite : (fractionSum ns).isFinite = true
    · rw [if_pos finite] at same
      cases same
    · rw [if_neg finite] at same
      cases same

/-- A sum of words is their total iff there are any and all sums on the way are words. -/
theorem sum_eq_total_iff (field : String) (words : ∀ x ∈ xs, fitsWord x = true) :
    sum.result field (xs.map Value.int) = .ok (.int xs.sum) ↔ xs ≠ [] ∧ Fit xs := by
  cases xs with
  | nil => exact iff_of_false nofun fun h => h.1 rfl
  | cons x rest =>
    have result : sum.result field ((x :: rest).map Value.int) =
        sumOf <$> sum.numbers field ((x :: rest).map Value.int) := rfl
    rw [result, numbers_int]
    change Except.ok (sumOf ((x :: rest).map Number.int)) = _ ↔ _
    rw [Except.ok.injEq, sumOf_eq_int_iff, wordSum?_eq_some_iff words]
    simp

theorem sum_eq_of_order_iff (field : String) (words : ∀ x ∈ xs, fitsWord x = true)
    (total : fitsWord xs.sum = true) :
    (∀ ys : List Int, ys.Perm xs →
        sum.result field (ys.map Value.int) = sum.result field (xs.map Value.int)) ↔
      fitsWord (gains xs) = true ∧ fitsWord (losses xs) = true := by
  have reordered {ys : List Int} (same : ys.Perm xs) : ∀ y ∈ ys, fitsWord y = true :=
    fun y mem => words y (same.mem_iff.1 mem)
  by_cases blank : xs = []
  · subst blank
    exact iff_of_true (fun ys order => by rw [List.perm_nil.1 order]) ⟨rfl, rfl⟩
  have nonempty {ys : List Int} (order : ys.Perm xs) : ys ≠ [] :=
    fun none => blank (List.perm_nil.1 (none ▸ order).symm)
  rw [← fit_in_every_order_iff]
  constructor
  · intro alike ys order
    -- the result is that of an order in which all sums on the way are words
    obtain ⟨zs, order', fit⟩ := exists_fitting_order words 0 rfl (by simpa using total)
    have reached : sum.result field (zs.map Value.int) = .ok (.int zs.sum) :=
      (sum_eq_total_iff field (reordered order')).2
        ⟨nonempty order', fun front inside => by simpa using fit front inside⟩
    rw [alike zs order', ← alike ys order, order'.sum_eq, ← order.sum_eq] at reached
    exact ((sum_eq_total_iff field (reordered order)).1 reached).2
  · intro fit ys order
    have each {zs : List Int} (order : zs.Perm xs) :
        sum.result field (zs.map Value.int) = .ok (.int xs.sum) := by
      rw [← order.sum_eq]
      exact (sum_eq_total_iff field (reordered order)).2 ⟨nonempty order, fit zs order⟩
    rw [each order, each (.refl xs)]

end Aggregate

theorem Store.aggregate_of_collect {s : Store} {sel : Selection} {field : String}
    {values : List Value} (collected : s.collect sel field = .ok values) (a : Aggregate) :
    s.aggregate sel a field = a.result field values := by
  rw [aggregate, collected]
  rfl

open Sums

/-- The sum of stored words whose total is a word is this total iff there are any and every sum on
the way through them is a word. The sum does not depend on the order in which the words come iff the
sum of the positive and the sum of the negative ones are words. -/
theorem Store.integer_sums_are_exact_iff {xs : List Int} (words : ∀ x ∈ xs, fitsWord x = true)
    (total : fitsWord xs.sum = true) (field : String) :
    (∀ (s : Store) sel, s.collect sel field = .ok (xs.map Value.int) →
      (s.aggregate sel .sum field = .ok (.int xs.sum) ↔ xs ≠ [] ∧ Fit xs)) ∧
    ((∀ ys : List Int, ys.Perm xs →
        Aggregate.sum.result field (ys.map Value.int) =
          Aggregate.sum.result field (xs.map Value.int)) ↔
      fitsWord (gains xs) = true ∧ fitsWord (losses xs) = true) ∧
    ∀ (s t : Store) sel sel' (ys : List Int), fitsWord (gains xs) = true →
      fitsWord (losses xs) = true → ys.Perm xs →
      s.collect sel field = .ok (xs.map Value.int) →
      t.collect sel' field = .ok (ys.map Value.int) →
      t.aggregate sel' .sum field = s.aggregate sel .sum field := by
  have ordered := Aggregate.sum_eq_of_order_iff field words total
  refine ⟨fun s sel collected => ?_, ordered, ?_⟩
  · rw [aggregate_of_collect collected]
    exact Aggregate.sum_eq_total_iff field words
  · intro s t sel sel' ys gained lost order here there
    rw [aggregate_of_collect here, aggregate_of_collect there]
    exact ordered.2 ⟨gained, lost⟩ ys order

namespace Balances

def account : Model :=
  Model.ofSchema ((Schema.ofKey "account" "id").withField ⟨"balance", .scalar⟩)

def catalog : Catalog := ⟨.ofList [("account", account)]⟩

/-- A store with one account for each balance, opened in this order. -/
def opened (balances : List Int) : Store :=
  ((Store.ofCatalog catalog).answer
    (.insertMany "account" (balances.map fun balance => [("balance", .int balance)]))).2

def greatest : Int := 0x7fffffffffffffff

/-- The total as a fraction: the power of two above the greatest word. -/
theorem fractionSum_late_loss :
    Aggregate.fractionSum [.int greatest, .int 1, .int (-1)] = .ofBits 0x43e0000000000000 := rfl

/-- The total of three balances is a word. It is found when the loss comes before the gain, and is
missed when it comes after. -/
theorem late_loss_spoils_the_sum :
    [greatest, 1, -1].sum = greatest ∧ [greatest, -1, 1].Perm [greatest, 1, -1] ∧
    (opened [greatest, 1, -1]).collect (.ofModel "account") "balance" =
      .ok ([greatest, 1, -1].map Value.int) ∧
    (opened [greatest, 1, -1]).aggregate (.ofModel "account") .sum "balance" =
      .ok (.num (.float (.ofBits 0x43e0000000000000))) ∧
    (opened [greatest, -1, 1]).aggregate (.ofModel "account") .sum "balance" =
      .ok (.int greatest) := by
  have collected : (opened [greatest, 1, -1]).collect (.ofModel "account") "balance" =
    .ok ([greatest, 1, -1].map Value.int) := rfl
  refine ⟨rfl, by decide, collected, ?_, rfl⟩
  rw [Store.aggregate_of_collect collected]
  change Except.ok (Value.float (Aggregate.fractionSum [.int greatest, .int 1, .int (-1)])) = _
  rw [fractionSum_late_loss]
  rfl

/-- Balances on both sides of zero add up to their total. -/
theorem small_balances_add_up :
    (opened [7, -3, 5]).aggregate (.ofModel "account") .sum "balance" = .ok (.int 9) ∧
    Aggregate.sum.result "balance" ([5, 7, -3].map Value.int) =
      Aggregate.sum.result "balance" ([7, -3, 5].map Value.int) := by
  have words : ∀ x ∈ [7, -3, 5], fitsWord x = true := by decide
  obtain ⟨exact', ordered, _⟩ := Store.integer_sums_are_exact_iff words rfl "balance"
  have fit := (Sums.fit_in_every_order_iff [7, -3, 5]).2 ⟨rfl, rfl⟩
  exact ⟨(exact' _ _ rfl).2 ⟨nofun, fit _ (.refl _)⟩, ordered.2 ⟨rfl, rfl⟩ _ (by decide)⟩

end Balances

end GuardedQuery
