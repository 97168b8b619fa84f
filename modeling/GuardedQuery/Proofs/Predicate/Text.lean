import GuardedQuery.Proofs.Predicate.Meaning
import GuardedQuery.Proofs.Value.Text

/-! The text of predicates. A predicate whose paths contain no marks can be told from its text and
its parameters, also from a text that goes on behind it with what is no comparison. -/

namespace GuardedQuery

open Text

namespace Predicate

/-- Paths without marks, values that texts tell apart, and combinations of two parts at least, as
`allOf` and `anyOf` make them: of a single part or of none the text does not tell how they are
combined. -/
inductive Legible : Predicate → Prop where
  | all : Legible .all
  | nothing : Legible .nothing
  | cond {c : Condition} (unmarked : Unmarked c.path) (finite : c.value.Finite) : Legible (.cond c)
  | and {parts : List Predicate} (several : 1 < parts.length)
      (each : ∀ part ∈ parts, Legible part) : Legible (.and parts)
  | or {parts : List Predicate} (several : 1 < parts.length)
      (each : ∀ part ∈ parts, Legible part) : Legible (.or parts)
  | not {inner : Predicate} (legible : Legible inner) : Legible (.not inner)

mutual

/-- The predicate without its expected values, of which the text shows the numbers only. -/
def blank : Predicate → Predicate
  | all => all
  | nothing => nothing
  | cond c => cond { c with value := .null }
  | and parts => and (blanks parts)
  | or parts => or (blanks parts)
  | not inner => not inner.blank

def blanks : List Predicate → List Predicate
  | [] => []
  | part :: rest => part.blank :: blanks rest

end

theorem blanks_eq_map (parts : List Predicate) : blanks parts = parts.map blank := by
  induction parts with
  | nil => rfl
  | cons part rest ih => rw [blanks, ih, List.map_cons]

/-- The parts of a combination, each with the number of parameters before it. -/
def numbered (bound : Nat) : List Predicate → List (Predicate × Nat)
  | [] => []
  | part :: rest => (part, bound) :: numbered (bound + part.conditions.length) rest

def printed (part : Predicate × Nat) : List Char := (part.1.textFrom part.2).toList

theorem toList_textsFrom (bound : Nat) (parts : List Predicate) :
    (textsFrom bound parts).map String.toList = (numbered bound parts).map printed := by
  induction parts generalizing bound with
  | nil => rfl
  | cons part rest ih => rw [textsFrom, numbered, List.map_cons, List.map_cons, ih, printed]

theorem map_numbered {α : Type} (f : Predicate → α) (bound : Nat) (parts : List Predicate) :
    (numbered bound parts).map (fun part => f part.1) = parts.map f := by
  induction parts generalizing bound with
  | nil => rfl
  | cons part rest ih => rw [numbered, List.map_cons, List.map_cons, ih]

theorem mem_of_mem_numbered {bound : Nat} {parts : List Predicate} {part : Predicate × Nat}
    (mem : part ∈ numbered bound parts) : part.1 ∈ parts := by
  have listed := List.mem_map_of_mem (f := fun part => part.1) mem
  rwa [map_numbered (fun part => part), List.map_id'] at listed

/-! Names of lookups and parts of dates -/

def lower (word : List Char) : String := String.ofList (word.map Char.toLower)

theorem lower_lookup (l : Lookup) : lower (upper l.name).toList = l.name := by
  cases l <;> rfl

theorem lower_part (p : DatePart) : lower (upper p.name).toList = p.name := by
  cases p <;> rfl

theorem lookup_inj {l m : Lookup} (h : (upper l.name).toList = (upper m.name).toList) : l = m := by
  have names : l.name = m.name := by rw [← lower_lookup, h, lower_lookup]
  have found := Lookup.ofName?_name l
  rw [names, Lookup.ofName?_name] at found
  exact (Option.some.inj found).symm

theorem part_inj {p q : DatePart} (h : (upper p.name).toList = (upper q.name).toList) : p = q := by
  have names : p.name = q.name := by rw [← lower_part, h, lower_part]
  have found := DatePart.ofName?_name p
  rw [names, DatePart.ofName?_name] at found
  exact (Option.some.inj found).symm

theorem isPlain_lookup (l : Lookup) : Consists isPlain (upper l.name).toList := by
  cases l <;> decide

theorem isPlain_part (p : DatePart) : Consists isPlain (upper p.name).toList := by
  cases p <;> decide

def isLookup (word : List Char) : Bool := (Lookup.ofName? (lower word)).isSome

theorem isLookup_lookup (l : Lookup) : isLookup (upper l.name).toList = true := by
  rw [isLookup, lower_lookup, Lookup.ofName?_name]
  rfl

theorem isLookup_part (p : DatePart) : isLookup (upper p.name).toList = false := by
  cases p <;> rfl

theorem isPlain_of_isDigit {c : Char} (digit : c.isDigit = true) : isPlain c = true := by
  have others : Consists (!·.isDigit) [' ', '(', ')', ',', ';'] := by decide
  rw [isPlain, Bool.not_eq_true', ← Bool.not_eq_true, List.contains_iff_mem]
  intro mark
  have none : (!c.isDigit) = true := others c mark
  rw [digit] at none
  cases none

/-! What stands behind a predicate -/

/-- Whether a text goes on with a lookup and a parameter. -/
def compares (cs : List Char) : Bool :=
  cs.head? = some ' ' && isLookup (cs.tail.takeWhile isPlain) &&
    [' ', '$'].isPrefixOf (cs.tail.dropWhile isPlain)

/-- What can stand behind a predicate: nothing that would go on with its last word, take it for
the part of a date or compare it. -/
structure Ends (cs : List Char) : Prop where
  stops : Stops isPlain cs
  unopened : cs.head? ≠ some '('
  unlike : compares cs = false

theorem Ends.stops_digits {cs : List Char} (ends : Ends cs) : Stops Char.isDigit cs := by
  intro c first
  by_contra digit
  have plain := isPlain_of_isDigit (Bool.not_eq_false _ ▸ digit)
  rw [ends.stops c first] at plain
  cases plain

theorem ends_nil : Ends [] := ⟨stops_nil, nofun, rfl⟩

theorem ends_close (cs : List Char) : Ends (')' :: cs) := ⟨stops_cons rfl cs, nofun, rfl⟩

/-- A word that is no lookup can stand behind a predicate. -/
theorem ends_word (word : List Char) (plain : Consists isPlain word)
    (other : isLookup word = false) {cs : List Char} (stops : Stops isPlain cs) :
    Ends (' ' :: (word ++ cs)) := by
  refine ⟨stops_cons rfl _, nofun, ?_⟩
  simp [compares, takeWhile_run plain stops, other]

theorem ends_and (cs : List Char) : Ends ([' ', 'A', 'N', 'D', ' '] ++ cs) :=
  ends_word ['A', 'N', 'D'] (by decide) rfl (stops_cons rfl cs)

theorem ends_or (cs : List Char) : Ends ([' ', 'O', 'R', ' '] ++ cs) :=
  ends_word ['O', 'R'] (by decide) rfl (stops_cons rfl cs)

/-! Comparisons -/

def comparison (l : Lookup) (n : Nat) : List Char :=
  ' ' :: ((upper l.name).toList ++ ' ' :: '$' :: Nat.toDigits 10 n)

/-- What a condition compares: a path or a part of the date that stands there. -/
def subject (c : Condition) : List Char :=
  match c.part with
  | some part => (upper part.name).toList ++ '(' :: (c.path.toList ++ [')'])
  | none => c.path.toList

theorem toList_conditionText (c : Condition) (n : Nat) :
    (conditionText c n).toList = subject c ++ comparison c.lookup n := by
  rw [conditionText, subject, comparison]
  cases c.part <;>
    simp only [String.toList_append, String.reduceToList, List.append_assoc, List.cons_append,
      List.nil_append, toList_numeral]

theorem compares_comparison (l : Lookup) (n : Nat) (rest : List Char) :
    compares (comparison l n ++ rest) = true := by
  simp only [compares, comparison, List.cons_append, List.append_assoc, List.tail_cons]
  rw [takeWhile_run (isPlain_lookup l) (stops_cons rfl _),
    dropWhile_run (isPlain_lookup l) (stops_cons rfl _), isLookup_lookup]
  rfl

theorem comparison_inj {l m : Lookup} {n k : Nat} {rest rest' : List Char}
    (stops : Stops Char.isDigit rest) (stops' : Stops Char.isDigit rest')
    (h : comparison l n ++ rest = comparison m k ++ rest') : l = m ∧ rest = rest' := by
  simp only [comparison, List.cons_append, List.append_assoc, List.cons.injEq, true_and] at h
  obtain ⟨names, numerals⟩ := run_inj (isPlain_lookup l) (isPlain_lookup m)
    (stops_cons rfl _) (stops_cons rfl _) h
  simp only [List.cons.injEq, true_and] at numerals
  exact ⟨lookup_inj names, (numeral_inj stops stops' numerals).2⟩

/-- The word behind a blank is not compared with a parameter if a comparison follows it. -/
theorem compares_subject {word : List Char} (plain : Consists isPlain word) (l : Lookup)
    (n : Nat) (rest : List Char) : compares (' ' :: (word ++ (comparison l n ++ rest))) = false := by
  have behind : [' ', '$'].isPrefixOf (comparison l n ++ rest) = false := by cases l <;> rfl
  have stops : Stops isPlain (comparison l n ++ rest) := stops_cons rfl _
  simp [compares, dropWhile_run plain stops, behind]

/-! The texts of predicates -/

theorem toList_all (bound : Nat) : (all.textFrom bound).toList = ['T', 'R', 'U', 'E'] := by
  simp only [textFrom, String.reduceToList]

theorem toList_nothing (bound : Nat) :
    (nothing.textFrom bound).toList = ['F', 'A', 'L', 'S', 'E'] := by
  simp only [textFrom, String.reduceToList]

/-- The text of a combination with a separator. -/
def group (sep : List Char) (bound : Nat) (parts : List Predicate) : List Char :=
  '(' :: (sep.intercalate ((numbered bound parts).map printed) ++ [')'])

theorem toList_and (bound : Nat) (parts : List Predicate) :
    ((and parts).textFrom bound).toList = group [' ', 'A', 'N', 'D', ' '] bound parts := by
  simp only [textFrom, String.toList_append, String.toList_intercalate, String.reduceToList,
    toList_textsFrom, group, List.cons_append, List.nil_append]

theorem toList_or (bound : Nat) (parts : List Predicate) :
    ((or parts).textFrom bound).toList = group [' ', 'O', 'R', ' '] bound parts := by
  simp only [textFrom, String.toList_append, String.toList_intercalate, String.reduceToList,
    toList_textsFrom, group, List.cons_append, List.nil_append]

theorem toList_not (bound : Nat) (inner : Predicate) :
    ((not inner).textFrom bound).toList =
      ['N', 'O', 'T'] ++ ' ' :: (inner.textFrom bound).toList := by
  simp only [textFrom, String.toList_append, String.reduceToList, List.cons_append,
    List.nil_append]

/-- The forms of predicates that the beginning of a text tells. -/
inductive Form where
  | all
  | nothing
  | condition
  | group
  | negation
  deriving DecidableEq

def form : Predicate → Form
  | all => .all
  | nothing => .nothing
  | cond _ => .condition
  | and _ | or _ => .group
  | not _ => .negation

def formOf (cs : List Char) : Form :=
  let word := cs.takeWhile isPlain
  let others := cs.dropWhile isPlain
  if others.head? = some '(' then (if word = [] then .group else .condition)
  else if compares others then .condition
  else if word = ['T', 'R', 'U', 'E'] then .all
  else if word = ['F', 'A', 'L', 'S', 'E'] then .nothing
  else .negation

variable {p q : Predicate} {n k : Nat} {rest rest' : List Char}

theorem formOf_compared {word : List Char} (plain : Consists isPlain word) (l : Lookup) :
    formOf (word ++ (comparison l n ++ rest)) = .condition := by
  have stops : Stops isPlain (comparison l n ++ rest) := stops_cons rfl _
  have unopened : (comparison l n ++ rest).head? ≠ some '(' := nofun
  simp only [formOf, takeWhile_run plain stops, dropWhile_run plain stops, unopened,
    compares_comparison, if_false, if_true]

theorem formOf_opened (word : List Char) (plain : Consists isPlain word) :
    formOf (word ++ '(' :: rest) = if word = [] then .group else .condition := by
  have stops : Stops isPlain ('(' :: rest) := stops_cons rfl _
  simp [formOf, takeWhile_run plain stops, dropWhile_run plain stops]

theorem formOf_ended (word : List Char) (plain : Consists isPlain word) (ends : Ends rest) :
    formOf (word ++ rest) = if word = ['T', 'R', 'U', 'E'] then .all
      else if word = ['F', 'A', 'L', 'S', 'E'] then .nothing else .negation := by
  simp only [formOf, takeWhile_run plain ends.stops, dropWhile_run plain ends.stops,
    ends.unopened, ends.unlike, if_false, Bool.false_eq_true]

/-- What is negated is not taken for the lookup of a path NOT. -/
theorem ends_negated (legible : p.Legible) (ends : Ends rest) :
    Ends (' ' :: ((p.textFrom n).toList ++ rest)) := by
  cases legible with
  | all =>
    rw [toList_all]
    exact ends_word _ (by decide) rfl ends.stops
  | nothing =>
    rw [toList_nothing]
    exact ends_word _ (by decide) rfl ends.stops
  | @cond c unmarked _ =>
    rw [textFrom, toList_conditionText, subject, List.append_assoc]
    cases c.part with
    | none => exact ⟨stops_cons rfl _, nofun, compares_subject unmarked _ _ _⟩
    | some part =>
      rw [List.append_assoc]
      exact ends_word _ (isPlain_part part) (isLookup_part part) (stops_cons rfl _)
  | and =>
    rw [toList_and]
    exact ends_word [] nofun rfl (stops_cons rfl _)
  | or =>
    rw [toList_or]
    exact ends_word [] nofun rfl (stops_cons rfl _)
  | not =>
    rw [toList_not, List.append_assoc]
    exact ends_word ['N', 'O', 'T'] (by decide) rfl (stops_cons rfl _)

theorem formOf_text (legible : p.Legible) (ends : Ends rest) :
    formOf ((p.textFrom n).toList ++ rest) = p.form := by
  cases legible with
  | all =>
    rw [toList_all]
    exact formOf_ended _ (by decide) ends
  | nothing =>
    rw [toList_nothing]
    exact formOf_ended _ (by decide) ends
  | @cond c unmarked _ =>
    rw [textFrom, toList_conditionText, subject, form, List.append_assoc]
    cases c.part with
    | none => exact formOf_compared unmarked _
    | some part =>
      rw [List.append_assoc]
      refine (formOf_opened _ (isPlain_part part)).trans ?_
      cases part <;> rfl
  | and =>
    rw [toList_and]
    exact formOf_opened [] (by decide)
  | or =>
    rw [toList_or]
    exact formOf_opened [] (by decide)
  | not inner =>
    rw [toList_not, List.append_assoc]
    exact formOf_ended ['N', 'O', 'T'] (by decide) (ends_negated inner ends)

theorem form_eq (legible : p.Legible) (legible' : q.Legible) (ends : Ends rest)
    (ends' : Ends rest') (h : (p.textFrom n).toList ++ rest = (q.textFrom k).toList ++ rest') :
    p.form = q.form := by
  rw [← formOf_text legible ends, h, formOf_text legible' ends']

/-- The predicate is known from its text but for its expected values, whatever stands behind. -/
def Told (p : Predicate) : Prop :=
  ∀ {q : Predicate} {n k : Nat} {rest rest' : List Char}, q.Legible → Ends rest → Ends rest' →
    (p.textFrom n).toList ++ rest = (q.textFrom k).toList ++ rest' →
      p.blank = q.blank ∧ rest = rest'

section
variable {xs ys : List Predicate} (each : ∀ x ∈ xs, x.Told)
  (several : 1 < xs.length) (several' : 1 < ys.length) (legible : ∀ y ∈ ys, y.Legible)
include each several several' legible

theorem group_inj {sep : List Char} (between : ∀ cs, Ends (sep ++ cs))
    (close : ∀ cs cs', ')' :: cs ≠ sep ++ cs')
    (h : group sep n xs ++ rest = group sep k ys ++ rest') :
    blanks xs = blanks ys ∧ rest = rest' := by
  rw [blanks_eq_map, blanks_eq_map, ← map_numbered blank n xs, ← map_numbered blank k ys]
  obtain ⟨x, xs, rfl⟩ := List.exists_cons_of_length_pos (Nat.zero_lt_of_lt several)
  obtain ⟨y, ys, rfl⟩ := List.exists_cons_of_length_pos (Nat.zero_lt_of_lt several')
  simp only [group, List.cons_append, List.append_assoc, List.cons.injEq, true_and,
    List.nil_append] at h
  obtain ⟨same, left⟩ := parts_inj (g := fun part => part.1.blank) Ends sep between
    ⟨ends_close rest, close rest⟩ ⟨ends_close rest', close rest'⟩
    (fun z mem w mem' _ _ => each z.1 (mem_of_mem_numbered mem)
      (legible w.1 (mem_of_mem_numbered mem'))) h
  exact ⟨same, (List.cons.inj left).2⟩

/-- The first parts of two groups end where the separators begin. -/
theorem separators_meet {sep sep' : List Char} (between : ∀ cs, Ends (sep ++ cs))
    (between' : ∀ cs, Ends (sep' ++ cs)) (h : group sep n xs ++ rest = group sep' k ys ++ rest') :
    ∃ cs cs', sep ++ cs = sep' ++ cs' := by
  match xs, several, ys, several' with
  | x :: _ :: _, _, y :: _ :: _, _ =>
    simp only [group, numbered, List.map_cons, List.intercalate_cons_cons, List.append_assoc,
      List.cons_append, List.cons.injEq, true_and] at h
    exact ⟨_, _, (each x List.mem_cons_self (legible y List.mem_cons_self) (between _)
      (between' _) h).2⟩

end

theorem subject_inj {c d : Condition} (unmarked : Unmarked c.path) (unmarked' : Unmarked d.path)
    {l m : Lookup}
    (h : subject c ++ (comparison l n ++ rest) = subject d ++ (comparison m k ++ rest')) :
    c.part = d.part ∧ c.path = d.path ∧ comparison l n ++ rest = comparison m k ++ rest' := by
  have behind (l : Lookup) (n : Nat) (cs : List Char) : Stops isPlain (comparison l n ++ cs) :=
    stops_cons rfl _
  rw [subject, subject] at h
  cases part : c.part <;> cases part' : d.part <;>
    simp only [part, part', List.append_assoc, List.cons_append, List.nil_append] at h
  case none.none =>
    obtain ⟨paths, left⟩ := run_inj unmarked unmarked' (behind l n rest) (behind m k rest') h
    exact ⟨rfl, String.toList_inj.1 paths, left⟩
  case none.some =>
    have left := (run_inj unmarked (isPlain_part _) (behind l n rest) (stops_cons rfl _) h).2
    cases left
  case some.none =>
    have left := (run_inj (isPlain_part _) unmarked' (stops_cons rfl _) (behind m k rest') h).2
    cases left
  case some.some =>
    obtain ⟨names, left⟩ := run_inj (isPlain_part _) (isPlain_part _) (stops_cons rfl _)
      (stops_cons rfl _) h
    obtain ⟨paths, left⟩ := run_inj unmarked unmarked' (stops_cons rfl _) (stops_cons rfl _)
      (List.cons.inj left).2
    exact ⟨congrArg some (part_inj names), String.toList_inj.1 paths, (List.cons.inj left).2⟩

theorem Legible.told (legible : p.Legible) : p.Told := by
  intro q n k rest rest' legible' ends ends' h
  have forms := form_eq legible legible' ends ends' h
  induction legible generalizing q n k rest rest' with
  | all =>
    cases legible' <;> cases forms
    rw [toList_all, toList_all] at h
    exact ⟨rfl, List.append_cancel_left h⟩
  | nothing =>
    cases legible' <;> cases forms
    rw [toList_nothing, toList_nothing] at h
    exact ⟨rfl, List.append_cancel_left h⟩
  | cond unmarked _ =>
    cases legible' <;> cases forms
    case cond d unmarked' _ =>
      simp only [textFrom, toList_conditionText, List.append_assoc] at h
      obtain ⟨part, path, left⟩ := subject_inj unmarked unmarked' h
      obtain ⟨lookup, left⟩ := comparison_inj ends.stops_digits ends'.stops_digits left
      simp only [blank, part, path, lookup, left, and_self]
  | @and parts several legible ih =>
    have each (x) (mem : x ∈ parts) : x.Told := fun legible' ends ends' h =>
      ih x mem legible' ends ends' h (form_eq (legible x mem) legible' ends ends' h)
    cases legible' with
    | and several' legible' =>
      rw [toList_and, toList_and] at h
      obtain ⟨same, left⟩ := group_inj each several several' legible' ends_and nofun h
      exact ⟨congrArg Predicate.and same, left⟩
    | or several' legible' =>
      rw [toList_and, toList_or] at h
      obtain ⟨_, _, meet⟩ := separators_meet each several several' legible' ends_and ends_or h
      cases meet
    | all | nothing | cond | not => cases forms
  | @or parts several legible ih =>
    have each (x) (mem : x ∈ parts) : x.Told := fun legible' ends ends' h =>
      ih x mem legible' ends ends' h (form_eq (legible x mem) legible' ends ends' h)
    cases legible' with
    | and several' legible' =>
      rw [toList_or, toList_and] at h
      obtain ⟨_, _, meet⟩ := separators_meet each several several' legible' ends_or ends_and h
      cases meet
    | or several' legible' =>
      rw [toList_or, toList_or] at h
      obtain ⟨same, left⟩ := group_inj each several several' legible' ends_or nofun h
      exact ⟨congrArg Predicate.or same, left⟩
    | all | nothing | cond | not => cases forms
  | not legible ih =>
    cases legible' <;> cases forms
    case not other legible' =>
      simp only [toList_not, List.cons_append, List.nil_append, List.cons.injEq, true_and] at h
      obtain ⟨same, left⟩ := ih legible' ends ends' h (form_eq legible legible' ends ends' h)
      exact ⟨by rw [blank, blank, same], left⟩

/-! Expected values -/

theorem Legible.finite (legible : p.Legible) : ∀ value ∈ p.params, value.Finite := by
  have conditions : ∀ c ∈ p.conditions, c.value.Finite := by
    induction legible with
    | all | nothing => nofun
    | cond _ finite =>
      intro c mem
      rwa [List.mem_singleton.1 mem]
    | and _ _ ih | or _ _ ih =>
      intro c mem
      rw [conditions, listConditions_eq_flatMap] at mem
      obtain ⟨part, listed, inside⟩ := List.mem_flatMap.1 mem
      exact ih part listed c inside
    | not _ ih => exact fun c mem => ih c (by rwa [conditions] at mem)
  intro value mem
  obtain ⟨c, inside, rfl⟩ := List.mem_map.1 mem
  exact conditions c inside

mutual

/-- Predicates that differ in their expected values only are told apart by these. -/
theorem eq_of_blank : (p q : Predicate) → {vs ws : List Value} → p.blank = q.blank →
    p.params ++ vs = q.params ++ ws → p = q ∧ vs = ws
  | .all, q, _, _, shape, values => by
    cases q <;> cases shape
    exact ⟨rfl, values⟩
  | .nothing, q, _, _, shape, values => by
    cases q <;> cases shape
    exact ⟨rfl, values⟩
  | .cond c, q, _, _, shape, values => by
    cases q <;> simp only [blank, reduceCtorEq, cond.injEq, Condition.mk.injEq, and_true] at shape
    case cond d =>
      obtain ⟨value, left⟩ := List.cons.inj values
      exact ⟨congrArg cond (Condition.mk.injEq .. ▸ ⟨shape.1, shape.2.1, shape.2.2, value⟩), left⟩
  | .and parts, q, _, _, shape, values => by
    cases q <;> simp only [blank, reduceCtorEq, and.injEq] at shape
    case and others =>
      obtain ⟨same, left⟩ := eq_of_blanks parts others shape values
      exact ⟨congrArg Predicate.and same, left⟩
  | .or parts, q, _, _, shape, values => by
    cases q <;> simp only [blank, reduceCtorEq, or.injEq] at shape
    case or others =>
      obtain ⟨same, left⟩ := eq_of_blanks parts others shape values
      exact ⟨congrArg Predicate.or same, left⟩
  | .not inner, q, _, _, shape, values => by
    cases q <;> simp only [blank, reduceCtorEq, not.injEq] at shape
    case not other =>
      obtain ⟨same, left⟩ := eq_of_blank inner other shape values
      exact ⟨congrArg Predicate.not same, left⟩

theorem eq_of_blanks : (xs ys : List Predicate) → {vs ws : List Value} → blanks xs = blanks ys →
    (listConditions xs).map (·.value) ++ vs = (listConditions ys).map (·.value) ++ ws →
    xs = ys ∧ vs = ws
  | [], ys, _, _, shape, values => by
    cases ys <;> cases shape
    exact ⟨rfl, values⟩
  | x :: xs, ys, _, _, shape, values => by
    cases ys <;> simp only [blanks, reduceCtorEq, List.cons.injEq] at shape
    case cons y ys =>
      simp only [listConditions, List.map_append, List.append_assoc] at values
      obtain ⟨first, further⟩ := eq_of_blank x y shape.1 values
      obtain ⟨others, left⟩ := eq_of_blanks xs ys shape.2 further
      exact ⟨by rw [first, others], left⟩

end

/-- Two predicates with the same text and the same parameters are the same. -/
theorem eq_of_text (legible : p.Legible) (legible' : q.Legible) (texts : p.text = q.text)
    (values : p.params = q.params) : p = q := by
  have shape := legible.told legible' ends_nil ends_nil (congrArg (String.toList · ++ []) texts)
  exact (eq_of_blank p q shape.1 (congrArg (· ++ []) values)).1

end Predicate

end GuardedQuery
