import Mathlib.Data.List.Forall2
import Mathlib.Data.List.Induction

/-! Chains of checks that can fail. A chain succeeds exactly if each of its links does, and what
a link of a successful chain yields can be read off. What the steps of a chain keep, the chain
keeps. -/

namespace GuardedQuery.Checks
variable {ε α β : Type}

theorem bind_ok_iff {x : Except ε α} {f : α → Except ε β} {b : β} :
    x >>= f = .ok b ↔ ∃ a, x = .ok a ∧ f a = .ok b := by
  cases x <;> simp [bind, Except.bind]

theorem bind_error_iff {x : Except ε α} {f : α → Except ε β} {e : ε} :
    x >>= f = .error e ↔ x = .error e ∨ ∃ a, x = .ok a ∧ f a = .error e := by
  cases x <;> simp [bind, Except.bind]

theorem map_ok_iff {x : Except ε α} {f : α → β} {b : β} :
    f <$> x = .ok b ↔ ∃ a, x = .ok a ∧ f a = b := by
  cases x <;> simp [Functor.map, Except.map]

theorem mapError_ok_iff {δ : Type} {x : Except ε α} {f : ε → δ} {a : α} :
    x.mapError f = .ok a ↔ x = .ok a := by
  cases x <;> simp [Except.mapError]

theorem pure_ok_iff {a b : α} : (pure a : Except ε α) = .ok b ↔ a = b := by
  simp [pure, Except.pure]

theorem exists_ok_of_isOk {x : Except ε α} (ok : x.isOk = true) : ∃ a, x = .ok a := by
  cases x with
  | ok a => exact ⟨a, rfl⟩
  | error e => cases ok

theorem mapM_ok_iff {f : α → Except ε β} {xs : List α} {ys : List β} :
    xs.mapM f = .ok ys ↔ List.Forall₂ (fun x y => f x = .ok y) xs ys := by
  induction xs generalizing ys with
  | nil => rw [List.mapM_nil, pure_ok_iff, List.forall₂_nil_left_iff, eq_comm]
  | cons x rest ih =>
    rw [List.mapM_cons, bind_ok_iff, List.forall₂_cons_left_iff]
    simp only [bind_ok_iff, pure_ok_iff, ih]
    constructor
    · rintro ⟨y, hy, others, hrest, rfl⟩
      exact ⟨y, others, hy, hrest, rfl⟩
    · rintro ⟨y, others, hy, hrest, rfl⟩
      exact ⟨y, hy, others, hrest, rfl⟩

theorem mapM_congr {f g : α → Except ε β} {xs : List α}
    (same : ∀ x ∈ xs, f x = g x) : xs.mapM f = xs.mapM g := by
  induction xs with
  | nil => rfl
  | cons x rest ih =>
    rw [List.mapM_cons, List.mapM_cons, same x List.mem_cons_self,
      ih fun y mem => same y (List.mem_cons_of_mem _ mem)]

theorem exists_mapM_ok {f : α → Except ε β} {xs : List α}
    (each : ∀ x ∈ xs, ∃ y, f x = .ok y) : ∃ ys, xs.mapM f = .ok ys := by
  induction xs with
  | nil => exact ⟨[], rfl⟩
  | cons x rest ih =>
    obtain ⟨⟨y, here⟩, others⟩ := List.forall_mem_cons.1 each
    obtain ⟨ys, further⟩ := ih others
    exact ⟨y :: ys, by rw [List.mapM_cons, here, further]; rfl⟩

theorem forM_ok_iff {f : α → Except ε Unit} {xs : List α} :
    xs.forM f = .ok () ↔ ∀ x ∈ xs, f x = .ok () := by
  induction xs with
  | nil => simp [pure, Except.pure]
  | cons x rest ih =>
    change (f x >>= fun _ => rest.forM f) = .ok () ↔ _
    rw [bind_ok_iff, List.forall_mem_cons, ih]
    exact exists_and_right.trans (and_congr_left fun _ => ⟨fun ⟨_, h⟩ => h, fun h => ⟨_, h⟩⟩)

theorem exists_of_forall₂ {R : α → β → Prop} {xs : List α} {ys : List β}
    (h : List.Forall₂ R xs ys) {x : α} (mem : x ∈ xs) : ∃ y ∈ ys, R x y := by
  induction h with
  | nil => cases mem
  | cons hxy _ ih =>
    rcases List.mem_cons.1 mem with rfl | mem
    · exact ⟨_, List.mem_cons_self, hxy⟩
    · obtain ⟨y, inside, related⟩ := ih mem
      exact ⟨y, List.mem_cons_of_mem _ inside, related⟩

theorem forall₂_mem {R : α → β → Prop} {xs : List α} {ys : List β} (h : List.Forall₂ R xs ys) :
    List.Forall₂ (fun x y => x ∈ xs ∧ y ∈ ys ∧ R x y) xs ys := by
  induction h with
  | nil => exact .nil
  | cons here _ ih =>
    refine .cons ⟨List.mem_cons_self, List.mem_cons_self, here⟩ (ih.imp fun _ _ related => ?_)
    obtain ⟨left, right, related⟩ := related
    exact ⟨List.mem_cons_of_mem _ left, List.mem_cons_of_mem _ right, related⟩

section
variable {p : α → Prop} {q : β → Prop} {xs : List α} {ys : List β}
  (each : List.Forall₂ (fun x y => q y ↔ p x) xs ys)
include each

theorem forall_mem_iff_of_forall₂ : (∀ y ∈ ys, q y) ↔ ∀ x ∈ xs, p x := by
  induction each with
  | nil => simp
  | cons here _ ih => rw [List.forall_mem_cons, List.forall_mem_cons, here, ih]

theorem exists_mem_iff_of_forall₂ : (∃ y ∈ ys, q y) ↔ ∃ x ∈ xs, p x := by
  induction each with
  | nil => simp
  | cons here _ ih => rw [List.exists_mem_cons_iff, List.exists_mem_cons_iff, here, ih]

end

theorem forall₂_of_mapM_ok {f : α → Except ε β} {R : α → β → Prop} {xs : List α} {ys : List β}
    (each : ∀ x ∈ xs, ∀ y, f x = .ok y → R x y) (h : xs.mapM f = .ok ys) :
    List.Forall₂ R xs ys := by
  have all := mapM_ok_iff.1 h
  clear h
  induction all with
  | nil => exact .nil
  | cons here _ ih =>
    obtain ⟨first, others⟩ := List.forall_mem_cons.1 each
    exact .cons (first _ here) (ih others)

theorem exists_of_mapM_ok {f : α → Except ε β} {xs : List α} {ys : List β}
    (h : xs.mapM f = .ok ys) {y : β} (mem : y ∈ ys) : ∃ x ∈ xs, f x = .ok y :=
  exists_of_forall₂ (mapM_ok_iff.1 h).flip mem

theorem exists_ok_of_mapM_ok {f : α → Except ε β} {xs : List α} {ys : List β}
    (h : xs.mapM f = .ok ys) {x : α} (mem : x ∈ xs) : ∃ y ∈ ys, f x = .ok y :=
  exists_of_forall₂ (mapM_ok_iff.1 h) mem

/-- What the links of a mapped chain keep of their arguments can be read back from the results. -/
theorem map_of_mapM_ok {f : α → Except ε β} {g : β → α} {xs : List α} {ys : List β}
    (back : ∀ x y, f x = .ok y → g y = x) (h : xs.mapM f = .ok ys) : ys.map g = xs := by
  have all := mapM_ok_iff.1 h
  induction all with
  | nil => rfl
  | cons hxy _ ih => rw [List.map_cons, back _ _ hxy, ih (mapM_ok_iff.2 ‹_›)]

/-- What holds at the start of a chain of steps and is kept by each of them holds at its end. -/
theorem foldlM_induction {σ : Type} {step : σ → α → Option σ} {P : List α → σ → Prop} {s s' : σ}
    {xs : List α} (start : P [] s)
    (kept : ∀ before x a b, P before a → step a x = some b → P (before ++ [x]) b)
    (ran : xs.foldlM step s = some s') : P xs s' := by
  induction xs using List.reverseRecOn generalizing s' with
  | nil =>
    cases ran
    exact start
  | append_singleton before x ih =>
    simp only [List.foldlM_append, List.foldlM_cons, List.foldlM_nil, bind_pure] at ran
    obtain ⟨between, earlier, taken⟩ := Option.bind_eq_some_iff.1 ran
    exact kept before x between s' (ih earlier) taken

end GuardedQuery.Checks
