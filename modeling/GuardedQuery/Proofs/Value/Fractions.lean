import GuardedQuery.Proofs.Decimal.Bits
import GuardedQuery.Proofs.Decimal.Shortest
import GuardedQuery.Proofs.Text.Runs
import GuardedQuery.Text.Numeral

/-! The text of fractions. Read as a decimal, the text of a finite fraction has the value of its
shortest decimal, which rounds to no other fraction, so different fractions have different texts. -/

namespace GuardedQuery

namespace Text

theorem digitsValue_eq (digits : List Char) :
    digitsValue digits = Nat.ofDigitChars 10 digits 0 := by
  simp only [digitsValue, Nat.ofDigitChars, Nat.mul_comm]

theorem digitsValue_toDigits (n : Nat) : digitsValue (Nat.toDigits 10 n) = n := by
  rw [digitsValue_eq, Nat.ofDigitChars_ten_toDigits]

theorem digitsValue_append_zeros (digits : List Char) (n : Nat) :
    digitsValue (digits ++ List.replicate n '0') = digitsValue digits * 10 ^ n := by
  rw [digitsValue_eq, Nat.ofDigitChars_append, Nat.ofDigitChars_replicate_zero, digitsValue_eq,
    Nat.mul_comm]

theorem digitsValue_zeros_append (n : Nat) (digits : List Char) :
    digitsValue (List.replicate n '0' ++ digits) = digitsValue digits := by
  rw [digitsValue_eq, Nat.ofDigitChars_append, Nat.ofDigitChars_replicate_zero, Nat.mul_zero,
    digitsValue_eq]

theorem naturalOf?_toDigits (n : Nat) : naturalOf? (Nat.toDigits 10 n) = some n := by
  have digits : (Nat.toDigits 10 n).all Char.isDigit = true :=
    List.all_eq_true.2 fun _ => isDigit_of_mem_toDigits
  rw [naturalOf?, digits, digitsValue_toDigits]
  simp [Nat.toDigits_ne_nil]

theorem integer?_minus (n : Nat) :
    integer? (String.ofList ('-' :: Nat.toDigits 10 n)) = some (-(n : Int)) := by
  rw [integer?, String.toList_ofList]
  simp only [naturalOf?_toDigits]
  rfl

theorem integer?_plus (n : Nat) :
    integer? (String.ofList ('+' :: Nat.toDigits 10 n)) = some (n : Int) := by
  rw [integer?, natural?, String.toList_ofList]
  simp only [naturalOf?_toDigits]
  rfl

theorem exponent?_exponentText (e : Int) :
    exponent? (FractionStyle.exponentText e).toList = some e := by
  rw [FractionStyle.exponentText]
  split
  · simp only [String.toList_append, String.reduceToList, List.cons_append, List.nil_append,
      toList_numeral, exponent?, true_or, if_true, integer?_minus, Option.some.injEq]
    omega
  · simp only [String.toList_append, String.reduceToList, List.cons_append, List.nil_append,
      toList_numeral, exponent?, true_or, if_true, integer?_plus, Option.some.injEq]
    omega

variable {whole part rest : List Char}

/-- Digits without a point and what an exponent says. -/
theorem decimal?_whole (digits : ∀ c ∈ whole, c.isDigit = true) (nonempty : whole ≠ [])
    (stops : Stops Char.isDigit rest) (pointless : ∀ cs, rest ≠ '.' :: cs) :
    decimal? (whole ++ rest) = (exponent? rest).map fun e => ⟨digitsValue whole, e⟩ := by
  simp only [decimal?, takeWhile_run digits stops, dropWhile_run digits stops,
    List.isEmpty_eq_false_iff.2 nonempty, Bool.false_and, Bool.false_eq_true, if_false,
    List.append_nil, List.length_nil]
  cases exponent? rest <;> simp [pure]

/-- Digits on both sides of a point and what an exponent says. -/
theorem decimal?_part (whole part rest : List Char)
    (digits : ∀ c ∈ whole, c.isDigit = true) (nonempty : whole ≠ [])
    (digits' : ∀ c ∈ part, c.isDigit = true) (stops : Stops Char.isDigit rest) :
    decimal? (whole ++ '.' :: (part ++ rest)) =
      (exponent? rest).map fun e => ⟨digitsValue (whole ++ part), e - part.length⟩ := by
  have point : Stops Char.isDigit ('.' :: (part ++ rest)) := stops_cons rfl _
  simp only [decimal?, takeWhile_run digits point, dropWhile_run digits point,
    takeWhile_run digits' stops, dropWhile_run digits' stops, List.isEmpty_eq_false_iff.2 nonempty,
    Bool.false_and, Bool.false_eq_true, if_false]
  cases exponent? rest <;> rfl

theorem decimal?_minus (cs : List Char) : decimal? ('-' :: cs) = none := by
  simp [decimal?]

end Text

open Text

theorem isDigit_of_mem_zeros {digits : List Char} (all : ∀ c ∈ digits, c.isDigit = true) {n : Nat}
    {c : Char} (mem : c ∈ digits ∨ c ∈ List.replicate n '0') : c.isDigit = true := by
  rcases mem with here | zero
  · exact all c here
  · rw [List.eq_of_mem_replicate zero]
    rfl

/-- A whole number with zeros at its end, a point and a zero after it. -/
theorem decimal?_zeros_point {digits : List Char} (all : ∀ c ∈ digits, c.isDigit = true)
    (nonempty : digits ≠ []) (n : Nat) :
    ∃ read, decimal? (digits ++ List.replicate n '0' ++ ['.', '0']) = some read ∧
      read.value = digitsValue digits * 10 ^ n := by
  have shown := decimal?_part (digits ++ List.replicate n '0') ['0'] []
    (fun c mem => isDigit_of_mem_zeros all (List.mem_append.1 mem)) (by simp [nonempty])
    (by simp) stops_nil
  have value : digitsValue (digits ++ List.replicate n '0' ++ ['0']) =
      digitsValue digits * 10 ^ (n + 1) := by
    rw [List.append_assoc, ← List.replicate_succ', digitsValue_append_zeros]
  rw [value] at shown
  refine ⟨⟨digitsValue digits * 10 ^ (n + 1), -1⟩, by simpa [exponent?] using shown, ?_⟩
  rw [Decimal.value]
  push_cast
  rw [pow_succ, zpow_neg_one]
  ring

/-- A number below one, with zeros after the point. -/
theorem decimal?_point_zeros {digits : List Char} (all : ∀ c ∈ digits, c.isDigit = true) (n : Nat) :
    decimal? ('0' :: '.' :: (List.replicate n '0' ++ digits)) =
      some ⟨digitsValue digits, -((n + digits.length : Nat) : Int)⟩ := by
  have shown := decimal?_part ['0'] (List.replicate n '0' ++ digits) [] (by simp) (by simp)
    (fun c mem => isDigit_of_mem_zeros all (List.mem_append.1 mem).symm) stops_nil
  have value : digitsValue (['0'] ++ (List.replicate n '0' ++ digits)) = digitsValue digits := by
    rw [← List.append_assoc, ← List.replicate_one, List.replicate_append_replicate,
      digitsValue_zeros_append]
  rw [value, List.append_nil, List.length_append, List.length_replicate] at shown
  simpa [exponent?] using shown

/-- Read as a decimal, the text of a decimal has its value. -/
theorem decimal?_render (d : Decimal) :
    ∃ read, decimal? (Value.fractionStyle.render d).toList = some read ∧ read.value = d.value := by
  rw [FractionStyle.render]
  have digits : ∀ c ∈ Nat.toDigits 10 d.digits, c.isDigit = true := fun _ => isDigit_of_mem_toDigits
  have value := digitsValue_toDigits d.digits
  have length : 0 < (Nat.toDigits 10 d.digits).length := Nat.length_toDigits_pos
  generalize Nat.toDigits 10 d.digits = cs at digits value length ⊢
  have nonempty : cs ≠ [] := List.ne_nil_of_length_pos length
  have front (n : Nat) : ∀ c ∈ cs.take n, c.isDigit = true :=
    fun c mem => digits c (List.mem_of_mem_take mem)
  have back (n : Nat) : ∀ c ∈ cs.drop n, c.isDigit = true :=
    fun c mem => digits c (List.mem_of_mem_drop mem)
  have exponential (power : Int) :
      Stops Char.isDigit (FractionStyle.exponentText power).toList ∧
        ∀ rest, (FractionStyle.exponentText power).toList ≠ '.' :: rest := by
    rw [FractionStyle.exponentText]
    split <;> simp [Stops]
  -- in all but the first case what is read is the decimal itself
  have itself {e : Int} (same : e = d.exponent) : some (⟨d.digits, e⟩ : Decimal) = some d := by
    rw [same]
  split
  · split
    · rename_i whole
      obtain ⟨read, shown, same⟩ := decimal?_zeros_point digits nonempty d.exponent.toNat
      refine ⟨read, ?_, ?_⟩
      · simpa [FractionStyle.zeros, Value.fractionStyle] using shown
      · obtain ⟨n, exponent⟩ := Int.eq_ofNat_of_zero_le whole
        rw [same, value, Decimal.value, exponent, Int.toNat_natCast, zpow_natCast]
    · split
      · rename_i below above
        have shown := decimal?_part _ _ [] (front ((cs.length - 1 + d.exponent).toNat + 1))
          (by simp [nonempty]) (back ((cs.length - 1 + d.exponent).toNat + 1)) stops_nil
        refine ⟨d, ?_, rfl⟩
        simp only [String.toList_append, String.toList_ofList, String.reduceToList,
          List.append_assoc, List.cons_append, List.nil_append, List.append_nil] at shown ⊢
        rw [shown, List.take_append_drop, value, List.length_drop]
        exact itself (by omega)
      · rename_i below under
        refine ⟨d, ?_, rfl⟩
        simp only [FractionStyle.zeros, String.toList_append, String.toList_ofList,
          String.reduceToList, List.cons_append, List.nil_append]
        rw [decimal?_point_zeros digits, value]
        exact itself (by omega)
  · split
    · rename_i one
      have shown := decimal?_whole digits nonempty (exponential (cs.length - 1 + d.exponent)).1
        (exponential (cs.length - 1 + d.exponent)).2
      refine ⟨d, ?_, rfl⟩
      rw [String.toList_append, String.toList_ofList, shown, exponent?_exponentText, value]
      exact itself (by omega)
    · rename_i more
      have shown := decimal?_part _ _ _ (front 1) (by simp [nonempty]) (back 1)
        (exponential (cs.length - 1 + d.exponent)).1
      refine ⟨d, ?_, rfl⟩
      simp only [String.toList_append, String.toList_ofList, String.reduceToList,
        List.append_assoc, List.cons_append, List.nil_append]
      rw [shown, exponent?_exponentText, List.take_append_drop, value, List.length_drop]
      exact itself (by omega)

namespace Number
variable {x y : Float}

/-- The text of a fraction without its sign. -/
def unsignedText (x : Float) : String :=
  if x == 0 then "0.0"
  else Value.fractionStyle.render (.shortest (BinaryFraction.ofBits x.toBits.toNat))

theorem floatText_eq (x : Float) :
    floatText x = (if isNegative x then "-" else "") ++ unsignedText x := by
  rw [floatText, styledText, isNegative, unsignedText]
  by_cases zero : (x == 0) = true
  · simp [zero, Value.fractionStyle]
  · simp [zero]

/-- What the text says without its sign rounds to the fraction without its sign. -/
theorem unsignedText_rounds (finite : x.isFinite = true) :
    ∃ read, decimal? (unsignedText x).toList = some read ∧
      (BinaryFraction.ofBits (magnitude x)).Rounds read.value := by
  rw [unsignedText, ofBits_toBits]
  split
  · rename_i zero
    rw [(beq_zero_iff x).1 zero]
    refine ⟨⟨0, -1⟩, rfl, ?_⟩
    have quarter := (BinaryFraction.ofBits 0).quarter_pos
    have low : (BinaryFraction.ofBits 0).low = -2 * (BinaryFraction.ofBits 0).quarter := by
      simp [BinaryFraction.low, BinaryFraction.ofBits]
    have high : (BinaryFraction.ofBits 0).high = 2 * (BinaryFraction.ofBits 0).quarter := by
      simp [BinaryFraction.high, BinaryFraction.ofBits]
    have value : (⟨0, -1⟩ : Decimal).value = 0 := by simp [Decimal.value]
    refine ⟨?_, ?_, fun _ => ⟨?_, ?_⟩⟩ <;> rw [value] <;> linarith
  · rename_i nonzero
    obtain ⟨read, shown, same⟩ :=
      decimal?_render (.shortest (BinaryFraction.ofBits (magnitude x)))
    refine ⟨read, shown, ?_⟩
    rw [same]
    refine Decimal.rounds_shortest (mantissa_pos (fun none => ?_) finite) (mantissa_lt finite)
    exact nonzero ((beq_zero_iff x).2 none)

/-- Different finite fractions have different texts. -/
theorem floatText_inj (finite : x.isFinite = true) (finite' : y.isFinite = true)
    (h : floatText x = floatText y) : x = y := by
  obtain ⟨read, shown, rounds⟩ := unsignedText_rounds finite
  obtain ⟨read', shown', rounds'⟩ := unsignedText_rounds finite'
  have unsigned {z w : Float} {d : Decimal} (shown : decimal? (unsignedText z).toList = some d) :
      '-' :: (unsignedText w).toList ≠ (unsignedText z).toList := by
    intro same
    rw [← same, decimal?_minus] at shown
    cases shown
  have parts : isNegative x = isNegative y ∧ (unsignedText x).toList = (unsignedText y).toList := by
    have chars := congrArg String.toList h
    rw [floatText_eq, floatText_eq, String.toList_append, String.toList_append] at chars
    cases sign : isNegative x <;> cases sign' : isNegative y <;>
      simp only [sign, sign', Bool.false_eq_true, if_false, if_true, String.reduceToList,
        List.cons_append, List.nil_append] at chars
    · exact ⟨rfl, chars⟩
    · exact absurd chars.symm (unsigned shown)
    · exact absurd chars (unsigned shown')
    · exact ⟨rfl, (List.cons.inj chars).2⟩
  rw [parts.2, shown', Option.some.injEq] at shown
  rw [← shown] at rounds
  exact eq_of_magnitude parts.1
    (BinaryFraction.eq_of_rounds (magnitude_lt finite) (magnitude_lt finite') rounds rounds')

end Number

/-! Which characters stand in the text of a number -/

/-- Whether a character can stand in the text of a number. -/
def isNumeral (c : Char) : Bool := c.isDigit || ['-', '+', '.', 'e'].contains c

theorem isNumeral_of_isDigit {c : Char} (digit : c.isDigit = true) : isNumeral c = true := by
  rw [isNumeral, digit, Bool.true_or]

theorem isNumeral_of_mem_exponentText (e : Int) :
    Consists isNumeral (FractionStyle.exponentText e).toList := by
  have digits : Consists isNumeral (Nat.toDigits 10 e.natAbs) :=
    fun _ mem => isNumeral_of_isDigit (isDigit_of_mem_toDigits mem)
  rw [FractionStyle.exponentText, String.toList_append, toList_numeral]
  rw [consists_append]
  exact ⟨by split <;> decide, digits⟩

/-- The text of a decimal has a point or an exponent. -/
theorem render_chars (d : Decimal) :
    Consists isNumeral (Value.fractionStyle.render d).toList ∧
      ∃ c ∈ (Value.fractionStyle.render d).toList, c = '.' ∨ c = 'e' := by
  rw [FractionStyle.render]
  have digits : Consists isNumeral (Nat.toDigits 10 d.digits) :=
    fun _ mem => isNumeral_of_isDigit (isDigit_of_mem_toDigits mem)
  generalize Nat.toDigits 10 d.digits = cs at digits ⊢
  have front (n : Nat) : Consists isNumeral (cs.take n) :=
    fun c mem => digits c (List.mem_of_mem_take mem)
  have back (n : Nat) : Consists isNumeral (cs.drop n) :=
    fun c mem => digits c (List.mem_of_mem_drop mem)
  have zeros (n : Nat) : Consists isNumeral (List.replicate n '0') := by
    intro c mem
    rw [List.eq_of_mem_replicate mem]
    rfl
  have point : Consists isNumeral ['.'] := by decide
  have exponential (e : Int) : 'e' ∈ (FractionStyle.exponentText e).toList := by
    rw [FractionStyle.exponentText]
    split <;> simp
  split
  · split
    · simp only [FractionStyle.zeros, Value.fractionStyle, if_true, String.toList_append,
        String.toList_ofList, String.reduceToList, consists_append]
      exact ⟨⟨⟨digits, zeros _⟩, by decide⟩, '.', by simp⟩
    · split
      · simp only [String.toList_append, String.toList_ofList, String.reduceToList,
          consists_append]
        exact ⟨⟨⟨front _, point⟩, back _⟩, '.', by simp⟩
      · simp only [FractionStyle.zeros, String.toList_append, String.toList_ofList,
          String.reduceToList, consists_append]
        exact ⟨⟨⟨by decide, zeros _⟩, digits⟩, '.', by simp⟩
  · split
    · simp only [String.toList_append, String.toList_ofList, consists_append]
      exact ⟨⟨digits, isNumeral_of_mem_exponentText _⟩, 'e', by simp [exponential]⟩
    · simp only [String.toList_append, String.toList_ofList, String.reduceToList,
        consists_append]
      exact ⟨⟨⟨⟨front _, point⟩, back _⟩, isNumeral_of_mem_exponentText _⟩, '.', by simp⟩

theorem floatText_chars (x : Float) :
    Consists isNumeral (Number.floatText x).toList ∧
      ∃ c ∈ (Number.floatText x).toList, c = '.' ∨ c = 'e' := by
  have unsigned : Consists isNumeral (Number.unsignedText x).toList ∧
      ∃ c ∈ (Number.unsignedText x).toList, c = '.' ∨ c = 'e' := by
    rw [Number.unsignedText]
    split
    · exact ⟨by decide, '.', by decide⟩
    · exact render_chars _
  obtain ⟨numeral, c, mem, mark⟩ := unsigned
  rw [Number.floatText_eq, String.toList_append, consists_append]
  exact ⟨⟨by split <;> decide, numeral⟩, c, List.mem_append_right _ mem, mark⟩

end GuardedQuery
