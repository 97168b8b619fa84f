import GuardedQuery.Proofs.Value.Fractions
import GuardedQuery.Value.Reader
import GuardedQuery.Value.Text

/-! The text of values. Reading a string that has been quoted gives it back and leaves what follows.
Values without infinite or undefined fractions can be told from their texts, also from texts that go
on behind the value with what cannot stand in a number. -/

namespace GuardedQuery

open Text

/-! Quoted strings -/

namespace Value
variable {c : Char} {rest done : List Char} {fuel : Nat}

theorem hex?_hexDigit (n : Nat) : Reader.hex? (hexDigit n) = some (n % 16) := by
  have digit : ∀ d < 16, Reader.hex? (Nat.digitChar d) = some d := by decide
  exact digit (n % 16) (Nat.mod_lt n (by decide))

/-- A control that is escaped by its number. -/
theorem readEscaped_hex (control : c.toNat < 32) :
    Reader.readEscaped ('0' :: '0' :: hexDigit (c.toNat / 16) :: hexDigit c.toNat :: rest) =
      some (c, rest) := by
  have zero : Reader.hex? '0' = some 0 := by decide
  have value : ((0 * 16 + 0) * 16 + c.toNat / 16 % 16) * 16 + c.toNat % 16 = c.toNat := by omega
  simp only [Reader.readEscaped, Reader.readHex, zero, hex?_hexDigit, Option.bind_eq_bind,
    Option.bind_some, Option.pure_def, value]
  rw [if_neg (by omega), if_neg (by omega), Char.ofNat_toNat]

/-- One escaped character is read as that character. -/
theorem readString_escapeChar :
    Reader.readString (fuel + 1) (escapeChar c ++ rest) done =
      Reader.readString fuel rest (c :: done) := by
  rw [escapeChar]
  split
  · subst_vars
    rfl
  split
  · subst_vars
    rfl
  split
  · subst_vars
    rfl
  split
  · subst_vars
    rfl
  split
  · subst_vars
    rfl
  split
  · rename_i back
    have same : Char.ofNat 8 = c := by rw [← back, Char.ofNat_toNat]
    simp only [List.cons_append, List.nil_append, Reader.readString, ← same]
    rfl
  split
  · rename_i feed
    have same : Char.ofNat 12 = c := by rw [← feed, Char.ofNat_toNat]
    simp only [List.cons_append, List.nil_append, Reader.readString, ← same]
    rfl
  split
  · rename_i control
    simp only [List.cons_append, List.nil_append, Reader.readString]
    rw [readEscaped_hex control]
    rfl
  · rename_i quote slash _ _ _ _ _ plain
    simp only [List.cons_append, List.nil_append]
    rw [Reader.readString]
    · rw [if_neg plain]
    · exact quote
    · intro _ is
      exact absurd is slash
    · intro _ _ is
      exact absurd is slash

/-- Reading what follows the opening quote gives the string and what is behind the closing one. -/
theorem readString_quoted (cs rest done : List Char) (enough : cs.length < fuel) :
    Reader.readString fuel (cs.flatMap escapeChar ++ '"' :: rest) done =
      some (String.ofList (done.reverse ++ cs), rest) := by
  induction cs generalizing fuel done with
  | nil =>
    obtain ⟨fuel, rfl⟩ := Nat.exists_eq_succ_of_ne_zero (Nat.ne_of_gt enough)
    simp [Reader.readString]
  | cons c cs ih =>
    obtain ⟨fuel, rfl⟩ := Nat.exists_eq_succ_of_ne_zero (Nat.ne_of_gt (Nat.zero_lt_of_lt enough))
    rw [List.flatMap_cons, List.append_assoc, readString_escapeChar,
      ih _ (Nat.lt_of_succ_lt_succ enough)]
    simp

theorem toList_quoted (s : String) :
    (quoted s).toList = '"' :: (s.toList.flatMap escapeChar ++ ['"']) := by
  simp only [quoted, String.toList_append, String.toList_ofList, String.reduceToList,
    List.cons_append, List.nil_append]

theorem quoted_inj {s t : String} {rest rest' : List Char}
    (h : (quoted s).toList ++ rest = (quoted t).toList ++ rest') : s = t ∧ rest = rest' := by
  simp only [toList_quoted, List.cons_append, List.append_assoc, List.nil_append,
    List.cons.injEq, true_and] at h
  have read := readString_quoted s.toList rest []
    (Nat.lt_succ_of_le (Nat.le_add_right s.toList.length t.toList.length))
  rw [h, readString_quoted t.toList rest' []
    (Nat.lt_succ_of_le (Nat.le_add_left t.toList.length s.toList.length))] at read
  simp only [List.reverse_nil, List.nil_append, String.ofList_toList, Option.some.injEq,
    Prod.mk.injEq] at read
  exact ⟨read.1.symm, read.2.symm⟩

end Value

/-! Finite values -/

/-- Every fraction in the value is finite. -/
inductive Value.Finite : Value → Prop where
  | null : Finite .null
  | bool (b : Bool) : Finite (.bool b)
  | int (i : Int) : Finite (.num (.int i))
  | float {x : Float} (finite : x.isFinite = true) : Finite (.num (.float x))
  | str (s : String) : Finite (.str s)
  | arr {items : List Value} (each : ∀ item ∈ items, Finite item) : Finite (.arr items)
  | obj {entries : List (String × Value)} (each : ∀ entry ∈ entries, Finite entry.2) :
      Finite (.obj entries)

/-! Numbers -/

namespace Number

def Finite : Number → Prop
  | int _ => True
  | float x => x.isFinite = true

theorem toList_intText (i : Int) :
    (toString i).toList = (if i < 0 then ['-'] else []) ++ Nat.toDigits 10 i.natAbs := by
  cases i with
  | ofNat n => exact toList_numeral n
  | negSucc n =>
    rw [if_pos (Int.negSucc_lt_zero n)]
    exact String.toList_append.trans (congrArg ('-' :: ·) (toList_numeral (n + 1)))

theorem intText_chars (i : Int) :
    ∀ c ∈ (toString i).toList, isNumeral c = true ∧ c ≠ '.' ∧ c ≠ 'e' := by
  intro c mem
  rw [toList_intText] at mem
  rcases List.mem_append.1 mem with sign | digit
  · have minus : c = '-' := by
      split at sign
      · exact List.mem_singleton.1 sign
      · cases sign
    rw [minus]
    decide
  · have digit := isDigit_of_mem_toDigits digit
    refine ⟨isNumeral_of_isDigit digit, ?_, ?_⟩ <;> rintro rfl <;> cases digit

theorem intText_inj {i j : Int} (h : toString i = toString j) : i = j := by
  have chars := congrArg String.toList h
  have minus (n m : Nat) : '-' :: Nat.toDigits 10 n ≠ Nat.toDigits 10 m := by
    intro same
    have digit := isDigit_of_mem_toDigits (same ▸ List.mem_cons_self : '-' ∈ Nat.toDigits 10 m)
    cases digit
  rw [toList_intText, toList_intText] at chars
  split at chars <;> split at chars <;>
    simp only [List.cons_append, List.nil_append, List.cons.injEq, true_and] at chars
  · have := toDigits_inj chars
    omega
  · exact absurd chars (minus _ _)
  · exact absurd chars.symm (minus _ _)
  · have := toDigits_inj chars
    omega

variable {m n : Number}

theorem text_chars (finite : n.Finite) :
    Consists isNumeral n.text.toList ∧ n.text.toList ≠ [] := by
  cases n with
  | int i =>
    refine ⟨fun c mem => (intText_chars i c mem).1, ?_⟩
    rw [text, toList_intText]
    simp [Nat.toDigits_ne_nil]
  | float x =>
    rw [Finite] at finite
    simp only [text, finite, if_true]
    obtain ⟨numeral, c, mem, _⟩ := floatText_chars x
    exact ⟨numeral, List.ne_nil_of_mem mem⟩

theorem text_inj (finite : m.Finite) (finite' : n.Finite) (h : m.text = n.text) : m = n := by
  -- the text of an integer has neither a point nor an exponent
  have differ (i : Int) (x : Float) : toString i ≠ floatText x := by
    intro same
    obtain ⟨_, c, mem, mark⟩ := floatText_chars x
    rw [← same] at mem
    obtain ⟨_, point, exponent⟩ := intText_chars i c mem
    exact mark.elim point exponent
  cases m with
  | int i =>
    cases n with
    | int j => exact congrArg int (intText_inj h)
    | float y =>
      rw [Finite] at finite'
      simp only [text, finite', if_true] at h
      exact absurd h (differ i y)
  | float x =>
    rw [Finite] at finite
    cases n with
    | int j =>
      simp only [text, finite, if_true] at h
      exact absurd h.symm (differ j x)
    | float y =>
      rw [Finite] at finite'
      simp only [text, finite, finite', if_true] at h
      exact congrArg float (floatText_inj finite finite' h)

end Number

namespace Value

/-! Values -/

/-- The kind of value that a text begins like. -/
def kindOf (c : Char) : Nat :=
  if c = 'n' then 0 else if c = 't' ∨ c = 'f' then 1 else if c = '"' then 2
  else if c = '[' then 3 else if c = '\x7b' then 4 else if isNumeral c then 5 else 6

def kind : Value → Nat
  | null => 0
  | bool _ => 1
  | str _ => 2
  | arr _ => 3
  | obj _ => 4
  | num _ => 5

variable {v w : Value} {rest rest' : List Char}

theorem kindOf_of_isNumeral {c : Char} (numeral : isNumeral c = true) : kindOf c = 5 := by
  rw [kindOf]
  split
  · subst_vars
    cases numeral
  split
  · rename_i tf
    rcases tf with rfl | rfl <;> cases numeral
  split
  · subst_vars
    cases numeral
  split
  · subst_vars
    cases numeral
  split
  · subst_vars
    cases numeral
  · rfl

theorem number_finite {n : Number} (finite : (num n).Finite) : n.Finite := by
  cases finite with
  | int i => trivial
  | float finite => exact finite

/-- The first character tells the kind of the value. -/
theorem text_head (finite : v.Finite) : ∃ c cs, v.text.toList = c :: cs ∧ kindOf c = v.kind := by
  cases v with
  | null => exact ⟨'n', _, rfl, rfl⟩
  | bool b => cases b <;> exact ⟨_, _, rfl, rfl⟩
  | num n =>
    obtain ⟨numeral, nonempty⟩ := Number.text_chars (number_finite finite)
    obtain ⟨c, cs, is⟩ := List.exists_cons_of_ne_nil nonempty
    exact ⟨c, cs, is, kindOf_of_isNumeral (numeral c (by rw [is]; exact List.mem_cons_self))⟩
  | str s => exact ⟨'"', _, toList_quoted s, rfl⟩
  | arr items => exact ⟨'[', _, by simp [text]; rfl, rfl⟩
  | obj entries => exact ⟨'\x7b', _, by simp [text]; rfl, rfl⟩

theorem kind_eq (finite : v.Finite) (finite' : w.Finite)
    (h : v.text.toList ++ rest = w.text.toList ++ rest') : v.kind = w.kind := by
  obtain ⟨c, cs, is, kind⟩ := text_head finite
  obtain ⟨c', cs', is', kind'⟩ := text_head finite'
  rw [is, is'] at h
  rw [← kind, ← kind', (List.cons.inj h).1]

theorem toList_text_arr (items : List Value) :
    (arr items).text.toList = '[' :: ([','].intercalate (items.map (·.text.toList)) ++ [']']) := by
  simp [text, itemTexts_eq_map, List.map_map, Function.comp_def]

/-- The text of an entry of an object. -/
def entryText (entry : String × Value) : List Char :=
  (quoted entry.1).toList ++ ':' :: entry.2.text.toList

theorem toList_text_obj (entries : List (String × Value)) :
    (obj entries).text.toList =
      '{' :: ([','].intercalate (entries.map entryText) ++ ['}']) := by
  have texts : (entryTexts entries).map String.toList = entries.map entryText := by
    induction entries with
    | nil => rfl
    | cons entry others ih =>
      rw [entryTexts, List.map_cons, ih, List.map_cons, entryText]
      simp
  simp [text, texts]

theorem number_inj {m n : Number} (finite : m.Finite) (finite' : n.Finite)
    (stops : Stops isNumeral rest) (stops' : Stops isNumeral rest')
    (h : m.text.toList ++ rest = n.text.toList ++ rest') : num m = num n ∧ rest = rest' := by
  obtain ⟨same, left⟩ := run_inj (Number.text_chars finite).1 (Number.text_chars finite').1
    stops stops' h
  exact ⟨congrArg num (Number.text_inj finite finite' (String.toList_inj.1 same)), left⟩

theorem exists_number (kind : w.kind = 5) : ∃ n, w = num n := by
  cases w with
  | num n => exact ⟨n, rfl⟩
  | _ => cases kind

theorem text_ne_close (finite : v.Finite) : v.text.toList ++ rest ≠ ']' :: rest' := by
  intro h
  obtain ⟨c, cs, is, kind⟩ := text_head finite
  rw [is] at h
  rw [(List.cons.inj h).1] at kind
  cases v <;> cases kind

theorem stops_separator (cs : List Char) : Stops isNumeral (',' :: cs) := stops_cons (by decide) cs

/-- Values with the same text in front of what cannot go on a number are equal. -/
theorem text_inj (finite : v.Finite) (finite' : w.Finite) (stops : Stops isNumeral rest)
    (stops' : Stops isNumeral rest') (h : v.text.toList ++ rest = w.text.toList ++ rest') :
    v = w ∧ rest = rest' := by
  have kinds := kind_eq finite finite' h
  -- the induction is on the value that is known to be finite, part by part
  induction finite generalizing w rest rest' with
  | null =>
    cases finite' <;> cases kinds
    exact ⟨rfl, List.append_cancel_left h⟩
  | bool b =>
    cases finite' with
    | bool b' =>
      cases b <;> cases b' <;> simp [text] at h
      · exact ⟨rfl, h⟩
      · exact ⟨rfl, h⟩
    | _ => cases kinds
  | int i =>
    obtain ⟨n, rfl⟩ := exists_number kinds.symm
    exact number_inj trivial (number_finite finite') stops stops' h
  | float finite =>
    obtain ⟨n, rfl⟩ := exists_number kinds.symm
    exact number_inj finite (number_finite finite') stops stops' h
  | str s =>
    cases finite' with
    | str t =>
      obtain ⟨same, left⟩ := quoted_inj h
      exact ⟨congrArg str same, left⟩
    | _ => cases kinds
  | arr each ih =>
    cases finite' with
    | arr each' =>
      simp only [toList_text_arr, List.cons_append, List.append_assoc, List.cons.injEq, true_and,
        List.nil_append] at h
      obtain ⟨items, left⟩ := closed_inj (g := id) (by decide) stops_separator
        (fun cs => stops_cons (by decide) cs)
        (fun z mem _ _ => text_ne_close ((List.mem_append.1 mem).elim (each z) (each' z)))
        (fun x mem y mem' cs cs' ends ends' same =>
          ih x mem (each' y mem') ends ends' same (kind_eq (each x mem) (each' y mem') same)) h
      rw [List.map_id, List.map_id] at items
      exact ⟨congrArg arr items, left⟩
    | _ => cases kinds
  | obj each ih =>
    cases finite' with
    | obj each' =>
      simp only [toList_text_obj, List.cons_append, List.append_assoc, List.cons.injEq, true_and,
        List.nil_append] at h
      obtain ⟨entries, left⟩ := closed_inj (g := id) (by decide) stops_separator
        (fun cs => stops_cons (by decide) cs)
        (fun z _ _ _ same => by simp [entryText, toList_quoted] at same)
        (fun x mem y mem' cs cs' ends ends' same => by
          simp only [entryText, List.append_assoc, List.cons_append] at same
          obtain ⟨key, further⟩ := quoted_inj same
          have values := (List.cons.inj further).2
          obtain ⟨value, left⟩ := ih x mem (each' y mem') ends ends' values
            (kind_eq (each x mem) (each' y mem') values)
          exact ⟨Prod.ext key value, left⟩) h
      rw [List.map_id, List.map_id] at entries
      exact ⟨congrArg obj entries, left⟩
    | _ => cases kinds

end Value

end GuardedQuery
