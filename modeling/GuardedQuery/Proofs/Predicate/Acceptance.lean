import GuardedQuery.Proofs.Predicate.Meaning

/-! Rows that a predicate accepts, and rows that it rejects; where a condition fails it does
neither. A conjunction accepts what all of its parts accept and a negation what its part rejects,
whatever fails elsewhere. Of a disjunction that is only so if every part can be decided. -/

namespace GuardedQuery.Store
variable (s : Store) (model : String) (row : Row)

def Accepts (p : Predicate) : Prop := s.holds model row p = .ok true

def Rejects (p : Predicate) : Prop := s.holds model row p = .ok false

/-- The predicate comes to a truth value on the row. -/
def Evaluates (p : Predicate) : Prop := ∃ b, s.holds model row p = .ok b

/-- No condition of the predicate fails on the row. -/
def Decides (p : Predicate) : Prop :=
  ∀ c ∈ p.conditions, ∃ b, s.holds model row (.cond c) = .ok b

variable {s model row}

theorem Rejects.not_accepts {p : Predicate} (h : s.Rejects model row p) :
    ¬ s.Accepts model row p := by
  intro accepted
  rw [Accepts, h] at accepted
  cases accepted

theorem accepts_all : s.Accepts model row .all := by
  rw [Accepts, holds]

theorem not_accepts_nothing : ¬ s.Accepts model row .nothing := by
  simp [Accepts, holds]

theorem holdAll_iff {parts : List Predicate} :
    s.holdAll model row parts = .ok true ↔ ∀ p ∈ parts, s.Accepts model row p := by
  induction parts with
  | nil => simp [holdAll]
  | cons part rest ih =>
    rw [List.forall_mem_cons, ← ih, holdAll, Accepts]
    cases s.holds model row part with
    | error e => simp [bind, Except.bind]
    | ok b => cases b <;> simp [bind, Except.bind, pure, Except.pure]

theorem exists_of_holdAny {parts : List Predicate} (h : s.holdAny model row parts = .ok true) :
    ∃ p ∈ parts, s.Accepts model row p := by
  induction parts with
  | nil => simp [holdAny] at h
  | cons part rest ih =>
    rw [holdAny] at h
    cases found : s.holds model row part with
    | error e => simp [found, bind, Except.bind] at h
    | ok b =>
      cases b with
      | true => exact ⟨part, List.mem_cons_self, found⟩
      | false =>
        obtain ⟨p, mem, accepted⟩ := ih (by simpa [found, bind, Except.bind] using h)
        exact ⟨p, List.mem_cons_of_mem _ mem, accepted⟩

theorem holdAny_of_exists {parts : List Predicate}
    (each : ∀ p ∈ parts, s.Evaluates model row p)
    (h : ∃ p ∈ parts, s.Accepts model row p) : s.holdAny model row parts = .ok true := by
  induction parts with
  | nil => simp at h
  | cons part rest ih =>
    obtain ⟨⟨b, found⟩, others⟩ := List.forall_mem_cons.1 each
    rw [holdAny, found]
    cases b with
    | true => rfl
    | false =>
      refine ih others ?_
      obtain ⟨p, mem, accepted⟩ := h
      rcases List.mem_cons.1 mem with rfl | inside
      · rw [Accepts, found] at accepted
        cases accepted
      · exact ⟨p, inside, accepted⟩

/-! Deciding -/

mutual

theorem Decides.exists_holds : (p : Predicate) → s.Decides model row p →
    ∃ b, s.holds model row p = .ok b
  | .all, _ => ⟨true, by rw [holds]⟩
  | .nothing, _ => ⟨false, by rw [holds]⟩
  | .cond c, h => h c (by simp [Predicate.conditions])
  | .and parts, h => by
    rw [holds]
    exact Decides.exists_holdAll parts fun c mem => h c (by simpa [Predicate.conditions] using mem)
  | .or parts, h => by
    rw [holds]
    exact Decides.exists_holdAny parts fun c mem => h c (by simpa [Predicate.conditions] using mem)
  | .not inner, h => by
    obtain ⟨b, found⟩ :=
      Decides.exists_holds inner fun c mem => h c (by simpa [Predicate.conditions] using mem)
    exact ⟨!b, by rw [holds, found]; rfl⟩

theorem Decides.exists_holdAll : (parts : List Predicate) →
    (∀ c ∈ Predicate.listConditions parts, ∃ b, s.holds model row (.cond c) = .ok b) →
    ∃ b, s.holdAll model row parts = .ok b
  | [], _ => ⟨true, by rw [holdAll]⟩
  | part :: rest, h => by
    simp only [Predicate.listConditions, List.mem_append] at h
    obtain ⟨b, found⟩ := Decides.exists_holds part fun c mem => h c (.inl mem)
    obtain ⟨others, ih⟩ := Decides.exists_holdAll rest fun c mem => h c (.inr mem)
    rw [holdAll, found]
    cases b with
    | true => exact ⟨others, ih⟩
    | false => exact ⟨false, rfl⟩

theorem Decides.exists_holdAny : (parts : List Predicate) →
    (∀ c ∈ Predicate.listConditions parts, ∃ b, s.holds model row (.cond c) = .ok b) →
    ∃ b, s.holdAny model row parts = .ok b
  | [], _ => ⟨false, by rw [holdAny]⟩
  | part :: rest, h => by
    simp only [Predicate.listConditions, List.mem_append] at h
    obtain ⟨b, found⟩ := Decides.exists_holds part fun c mem => h c (.inl mem)
    obtain ⟨others, ih⟩ := Decides.exists_holdAny rest fun c mem => h c (.inr mem)
    rw [holdAny, found]
    cases b with
    | true => exact ⟨true, rfl⟩
    | false => exact ⟨others, ih⟩

end

/-! The builders -/

theorem accepts_allOf_iff {parts : List Predicate} :
    s.Accepts model row (.allOf parts) ↔ ∀ p ∈ parts, s.Accepts model row p := by
  by_cases void : .nothing ∈ parts
  · rw [allOf_of_mem void]
    exact iff_of_false not_accepts_nothing fun h => not_accepts_nothing (h _ void)
  · rw [Accepts, holds_allOf void, holdAll_iff]

theorem accepts_negate_iff {p : Predicate} :
    s.Accepts model row p.negate ↔ s.Rejects model row p := by
  rw [Accepts, Rejects, holds_negate]
  cases s.holds model row p <;> simp [Except.map]

theorem exists_of_accepts_anyOf {parts : List Predicate}
    (h : s.Accepts model row (.anyOf parts)) : ∃ p ∈ parts, s.Accepts model row p := by
  by_cases whole : .all ∈ parts
  · exact ⟨.all, whole, accepts_all⟩
  · rw [Accepts, holds_anyOf whole] at h
    exact exists_of_holdAny h

theorem accepts_anyOf_of_exists {parts : List Predicate}
    (each : ∀ p ∈ parts, s.Evaluates model row p) (h : ∃ p ∈ parts, s.Accepts model row p) :
    s.Accepts model row (.anyOf parts) := by
  by_cases whole : .all ∈ parts
  · rw [anyOf_of_mem whole]
    exact accepts_all
  · rw [Accepts, holds_anyOf whole]
    exact holdAny_of_exists each h

theorem accepts_anyOf_iff {parts : List Predicate}
    (decided : ∀ p ∈ parts, s.Decides model row p) :
    s.Accepts model row (.anyOf parts) ↔ ∃ p ∈ parts, s.Accepts model row p :=
  ⟨exists_of_accepts_anyOf,
    accepts_anyOf_of_exists fun p mem => Decides.exists_holds p (decided p mem)⟩

/-! Coming to a truth value -/

theorem evaluates_all : s.Evaluates model row .all := ⟨true, accepts_all⟩

theorem Evaluates.rejects {p : Predicate} (evaluates : s.Evaluates model row p)
    (not : ¬ s.Accepts model row p) : s.Rejects model row p := by
  obtain ⟨b, held⟩ := evaluates
  cases b with
  | true => exact absurd held not
  | false => exact held

theorem Evaluates.negate {p : Predicate} (evaluates : s.Evaluates model row p) :
    s.Evaluates model row p.negate := by
  obtain ⟨b, held⟩ := evaluates
  exact ⟨!b, by rw [holds_negate, held]; rfl⟩

theorem Evaluates.accepts_negate_iff {p : Predicate} (evaluates : s.Evaluates model row p) :
    s.Accepts model row p.negate ↔ ¬ s.Accepts model row p :=
  Store.accepts_negate_iff.trans ⟨Rejects.not_accepts, evaluates.rejects⟩

theorem evaluates_allOf {parts : List Predicate} (each : ∀ p ∈ parts, s.Evaluates model row p) :
    s.Evaluates model row (.allOf parts) := by
  by_cases void : .nothing ∈ parts
  · rw [allOf_of_mem void]
    exact ⟨false, by rw [holds]⟩
  · rw [Evaluates, holds_allOf void]
    clear void
    induction parts with
    | nil => exact ⟨true, by rw [holdAll]⟩
    | cons part rest ih =>
      obtain ⟨⟨b, held⟩, others⟩ := List.forall_mem_cons.1 each
      rw [holdAll, held]
      cases b with
      | true => exact ih others
      | false => exact ⟨false, rfl⟩

theorem evaluates_anyOf {parts : List Predicate} (each : ∀ p ∈ parts, s.Evaluates model row p) :
    s.Evaluates model row (.anyOf parts) := by
  by_cases whole : .all ∈ parts
  · rw [anyOf_of_mem whole]
    exact evaluates_all
  · rw [Evaluates, holds_anyOf whole]
    clear whole
    induction parts with
    | nil => exact ⟨false, by rw [holdAny]⟩
    | cons part rest ih =>
      obtain ⟨⟨b, held⟩, others⟩ := List.forall_mem_cons.1 each
      rw [holdAny, held]
      cases b with
      | true => exact ⟨true, rfl⟩
      | false => exact ih others

/-! Narrowing -/

theorem accepts_narrow_iff {sel : Selection} {p : Predicate} :
    s.Accepts model row (sel.narrow p).predicate ↔
      s.Accepts model row sel.predicate ∧ s.Accepts model row p := by
  rw [Selection.narrow, accepts_allOf_iff]
  simp

theorem accepts_without_iff {sel : Selection} {p : Predicate} :
    s.Accepts model row (sel.without p).predicate ↔
      s.Accepts model row sel.predicate ∧ s.Rejects model row p := by
  rw [Selection.without, accepts_narrow_iff, accepts_negate_iff]

end GuardedQuery.Store
