import Mathlib.Tactic.ByContra

/-! Runs of characters of one kind. Where a run of a text ends is told by the first character of
another kind, so texts that are put together from runs with such characters between them can be
taken apart again. -/

namespace GuardedQuery.Text

/-- The text is a run of characters of the kind. -/
def Consists (kind : Char → Bool) (cs : List Char) : Prop := ∀ c ∈ cs, kind c = true

instance (kind : Char → Bool) (cs : List Char) : Decidable (Consists kind cs) :=
  List.decidableBAll (fun c => kind c = true) cs

theorem consists_append {kind : Char → Bool} {xs ys : List Char} :
    Consists kind (xs ++ ys) ↔ Consists kind xs ∧ Consists kind ys :=
  List.forall_mem_append

/-- The text is at its end or goes on with a character of another kind. -/
def Stops (kind : Char → Bool) (cs : List Char) : Prop := ∀ c ∈ cs.head?, kind c = false

variable {kind : Char → Bool} {run run' rest rest' : List Char}

theorem stops_nil : Stops kind [] := nofun

theorem stops_cons {c : Char} (h : kind c = false) (cs : List Char) : Stops kind (c :: cs) := by
  intro d first
  rwa [← Option.some.inj first]

theorem takeWhile_run (all : Consists kind run) (stops : Stops kind rest) :
    (run ++ rest).takeWhile kind = run := by
  rw [List.takeWhile_append_of_pos all]
  cases rest with
  | nil => simp
  | cons c cs => simp [stops c rfl]

theorem dropWhile_run (all : Consists kind run) (stops : Stops kind rest) :
    (run ++ rest).dropWhile kind = rest := by
  rw [List.dropWhile_append_of_pos all]
  cases rest with
  | nil => rfl
  | cons c cs => simp [stops c rfl]

theorem run_inj (all : Consists kind run) (all' : Consists kind run')
    (stops : Stops kind rest) (stops' : Stops kind rest') (h : run ++ rest = run' ++ rest') :
    run = run' ∧ rest = rest' := by
  have taken := congrArg (List.takeWhile kind) h
  have left := congrArg (List.dropWhile kind) h
  rw [takeWhile_run all stops, takeWhile_run all' stops'] at taken
  rw [dropWhile_run all stops, dropWhile_run all' stops'] at left
  exact ⟨taken, left⟩

/-! Lists of parts with a separator -/

theorem map_inj_of {α β : Type} {f : α → β} {xs ys : List α}
    (each : ∀ x ∈ xs, ∀ y ∈ ys, f x = f y → x = y) (h : xs.map f = ys.map f) : xs = ys := by
  induction xs generalizing ys with
  | nil => exact (List.map_eq_nil_iff.1 h.symm).symm
  | cons x rest ih =>
    cases ys with
    | nil => cases h
    | cons y others =>
      obtain ⟨first, further⟩ := List.cons.inj h
      rw [each x List.mem_cons_self y List.mem_cons_self first]
      rw [ih (fun z mem w mem' => each z (List.mem_cons_of_mem _ mem) w
        (List.mem_cons_of_mem _ mem')) further]

theorem mem_intercalate {sep : List Char} {parts : List (List Char)} {c : Char}
    (mem : c ∈ sep.intercalate parts) : c ∈ sep ∨ ∃ part ∈ parts, c ∈ part := by
  induction parts with
  | nil => cases mem
  | cons first rest ih =>
    cases rest with
    | nil => exact .inr ⟨first, List.mem_cons_self, by simpa using mem⟩
    | cons next others =>
      rw [List.intercalate_cons_cons, List.append_assoc] at mem
      rcases List.mem_append.1 mem with here | mem
      · exact .inr ⟨first, List.mem_cons_self, here⟩
      · rcases List.mem_append.1 mem with between | further
        · exact .inl between
        · refine (ih further).imp_right fun ⟨part, inside, mem⟩ => ?_
          exact ⟨part, List.mem_cons_of_mem _ inside, mem⟩

/-- Parts that are not empty and do not contain the separator can be told apart. -/
theorem intercalate_inj {sep : Char} {xs ys : List (List Char)}
    (free : ∀ x ∈ xs, sep ∉ x ∧ x ≠ []) (free' : ∀ y ∈ ys, sep ∉ y ∧ y ≠ [])
    (h : [sep].intercalate xs = [sep].intercalate ys) : xs = ys := by
  have split {zs : List (List Char)} (free : ∀ z ∈ zs, sep ∉ z ∧ z ≠ []) (some : zs ≠ []) :
      ([sep].intercalate zs).splitOn sep = zs :=
    List.splitOn_intercalate sep (fun z mem => (free z mem).1) some
  have blank {zs : List (List Char)} (free : ∀ z ∈ zs, sep ∉ z ∧ z ≠ [])
      (h : [sep].intercalate zs = []) : zs = [] := by
    by_contra some
    have parts := split free some
    rw [h] at parts
    exact (free [] (by rw [← parts]; simp)).2 rfl
  by_cases none : xs = []
  · subst none
    exact (blank free' (h.symm.trans rfl)).symm
  · by_cases none' : ys = []
    · subst none'
      exact absurd (blank free (h.trans rfl)) none
    · rw [← split free none, h, split free' none']

theorem intercalate_cons (sep first : List Char) (rest : List (List Char)) :
    sep.intercalate (first :: rest) = first ++ rest.flatMap (sep ++ ·) := by
  induction rest generalizing first with
  | nil => simp
  | cons next others ih =>
    rw [List.intercalate_cons_cons, ih, List.flatMap_cons, List.append_assoc, List.append_assoc]

section
variable {α β : Type} {f : α → List Char} {g : α → β} {ends : List Char → Prop}

theorem ends_chain {sep : List Char} (between : ∀ cs, ends (sep ++ cs)) (parts : List α)
    {rest : List Char} (last : ends rest) : ends (parts.flatMap (sep ++ f ·) ++ rest) := by
  cases parts with
  | nil => exact last
  | cons part parts =>
    rw [List.flatMap_cons, List.append_assoc, List.append_assoc]
    exact between _

/-- Parts behind separators can be told apart one by one if each part can be told apart from what
follows it. What is told of a part is `g`. -/
theorem chain_inj (sep : List Char) {rest rest' : List Char} {xs ys : List α}
    (between : ∀ cs, ends (sep ++ cs))
    (last : ends rest ∧ ∀ cs, rest ≠ sep ++ cs) (last' : ends rest' ∧ ∀ cs, rest' ≠ sep ++ cs)
    (each : ∀ x ∈ xs, ∀ y ∈ ys, ∀ cs cs', ends cs → ends cs' → f x ++ cs = f y ++ cs' →
      g x = g y ∧ cs = cs')
    (h : xs.flatMap (sep ++ f ·) ++ rest = ys.flatMap (sep ++ f ·) ++ rest') :
    xs.map g = ys.map g ∧ rest = rest' := by
  induction xs generalizing ys with
  | nil =>
    cases ys with
    | nil => exact ⟨rfl, h⟩
    | cons y ys =>
      rw [List.flatMap_cons, List.append_assoc, List.append_assoc] at h
      exact absurd h (last.2 _)
  | cons x xs ih =>
    cases ys with
    | nil =>
      rw [List.flatMap_cons, List.append_assoc, List.append_assoc] at h
      exact absurd h.symm (last'.2 _)
    | cons y ys =>
      simp only [List.flatMap_cons, List.append_assoc] at h
      obtain ⟨first, further⟩ := each x List.mem_cons_self y List.mem_cons_self _ _
        (ends_chain between xs last.1) (ends_chain between ys last'.1)
        (List.append_cancel_left h)
      obtain ⟨others, left⟩ := ih (fun z mem w mem' => each z (List.mem_cons_of_mem _ mem) w
        (List.mem_cons_of_mem _ mem')) further
      exact ⟨by rw [List.map_cons, List.map_cons, first, others], left⟩

variable (ends) in
/-- The same for a first part with others behind it. -/
theorem parts_inj (sep : List Char) {rest rest' : List Char} {x y : α} {xs ys : List α}
    (between : ∀ cs, ends (sep ++ cs))
    (last : ends rest ∧ ∀ cs, rest ≠ sep ++ cs) (last' : ends rest' ∧ ∀ cs, rest' ≠ sep ++ cs)
    (each : ∀ z ∈ x :: xs, ∀ w ∈ y :: ys, ∀ cs cs', ends cs → ends cs' → f z ++ cs = f w ++ cs' →
      g z = g w ∧ cs = cs')
    (h : sep.intercalate ((x :: xs).map f) ++ rest = sep.intercalate ((y :: ys).map f) ++ rest') :
    (x :: xs).map g = (y :: ys).map g ∧ rest = rest' := by
  simp only [List.map_cons, intercalate_cons, List.flatMap_map, List.append_assoc] at h
  obtain ⟨first, further⟩ := each x List.mem_cons_self y List.mem_cons_self _ _
    (ends_chain between xs last.1) (ends_chain between ys last'.1) h
  obtain ⟨others, left⟩ := chain_inj sep between last last'
    (fun z mem w mem' => each z (List.mem_cons_of_mem _ mem) w (List.mem_cons_of_mem _ mem'))
    further
  exact ⟨by rw [List.map_cons, List.map_cons, first, others], left⟩

/-- The same for any number of parts, with a mark behind the last that no part begins with. -/
theorem closed_inj {sep close : Char} {rest rest' : List Char} {xs ys : List α}
    (differ : close ≠ sep) (ends_sep : ∀ cs, ends (sep :: cs))
    (ends_close : ∀ cs, ends (close :: cs))
    (begin : ∀ z ∈ xs ++ ys, ∀ cs cs', f z ++ cs ≠ close :: cs')
    (each : ∀ x ∈ xs, ∀ y ∈ ys, ∀ cs cs', ends cs → ends cs' → f x ++ cs = f y ++ cs' →
      g x = g y ∧ cs = cs')
    (h : [sep].intercalate (xs.map f) ++ close :: rest =
      [sep].intercalate (ys.map f) ++ close :: rest') :
    xs.map g = ys.map g ∧ rest = rest' := by
  have last (cs : List Char) : ends (close :: cs) ∧ ∀ cs', close :: cs ≠ [sep] ++ cs' :=
    ⟨ends_close cs, fun _ same => differ (List.cons.inj same).1⟩
  cases xs with
  | nil =>
    cases ys with
    | nil => exact ⟨rfl, (List.cons.inj h).2⟩
    | cons y ys =>
      rw [List.map_cons, intercalate_cons, List.append_assoc] at h
      exact absurd h.symm (begin y (by simp) _ _)
  | cons x xs =>
    cases ys with
    | nil =>
      rw [List.map_cons, intercalate_cons, List.append_assoc] at h
      exact absurd h (begin x (by simp) _ _)
    | cons y ys =>
      obtain ⟨same, left⟩ := parts_inj ends [sep] ends_sep (last rest) (last rest') each h
      exact ⟨same, (List.cons.inj left).2⟩

end

/-! Numerals -/

theorem toList_numeral (n : Nat) : (toString n).toList = Nat.toDigits 10 n := Nat.toList_repr

theorem toDigits_inj {n m : Nat} (h : Nat.toDigits 10 n = Nat.toDigits 10 m) : n = m := by
  rw [← Nat.ofDigitChars_ten_toDigits (n := n), h, Nat.ofDigitChars_ten_toDigits]

theorem isDigit_of_mem_toDigits {n : Nat} {c : Char} (mem : c ∈ Nat.toDigits 10 n) :
    c.isDigit = true :=
  Nat.isDigit_of_mem_toDigits (by decide) (by decide) mem

theorem numeral_inj {n m : Nat} (stops : Stops Char.isDigit rest)
    (stops' : Stops Char.isDigit rest')
    (h : Nat.toDigits 10 n ++ rest = Nat.toDigits 10 m ++ rest') : n = m ∧ rest = rest' := by
  obtain ⟨digits, left⟩ := run_inj (fun _ => isDigit_of_mem_toDigits)
    (fun _ => isDigit_of_mem_toDigits) stops stops' h
  exact ⟨toDigits_inj digits, left⟩

/-! Names -/

/-- Whether a character can stand in a name that is set off by blanks, brackets and the like. -/
def isPlain (c : Char) : Bool := !([' ', '(', ')', ',', ';'].contains c)

def Unmarked (name : String) : Prop := Consists isPlain name.toList

instance (name : String) : Decidable (Unmarked name) :=
  inferInstanceAs (Decidable (Consists isPlain name.toList))

theorem Unmarked.not_mem {name : String} (h : Unmarked name) {c : Char}
    (mark : isPlain c = false) : c ∉ name.toList := by
  intro mem
  rw [h c mem] at mark
  cases mark

end GuardedQuery.Text
