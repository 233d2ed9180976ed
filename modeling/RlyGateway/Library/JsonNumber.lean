import RlyGateway.Library.JsonText
import Mathlib.Data.List.TakeWhile
import Mathlib.Data.Nat.Factorization.Basic
import Mathlib.Algebra.Order.Field.Power
import Mathlib.Algebra.Order.Ring.Rat

/-!
# Numbers of JSON

A finite decimal is read back from the text it is written as, and what is read is a finite decimal.
-/

namespace Json

/-! ## Digits -/

/-- The text is made of decimal digits. -/
def AreDigits (digits : List Char) : Prop := ∀ c ∈ digits, c.isDigit = true

theorem digitsValue_eq_ofDigitChars (digits : List Char) :
    digitsValue digits = Nat.ofDigitChars 10 digits 0 := rfl

theorem digitsValue_append (digits more : List Char) :
    digitsValue (digits ++ more) = digitsValue digits * 10 ^ more.length + digitsValue more := by
  simp only [digitsValue_eq_ofDigitChars, Nat.ofDigitChars_append]
  rw [Nat.ofDigitChars_eq_ofDigitChars_zero, mul_comm]

@[simp] theorem digitsValue_replicate_zero (n : ℕ) : digitsValue (List.replicate n '0') = 0 := by
  rw [digitsValue_eq_ofDigitChars, Nat.ofDigitChars_replicate_zero, mul_zero]

theorem areDigits_replicate_zero (n : ℕ) : AreDigits (List.replicate n '0') := by
  intro c hc
  rw [List.eq_of_mem_replicate hc]
  rfl

theorem AreDigits.append {digits more : List Char} (h : AreDigits digits) (hmore : AreDigits more) :
    AreDigits (digits ++ more) := by
  intro c hc
  rcases List.mem_append.1 hc with hc | hc
  · exact h c hc
  · exact hmore c hc

theorem areDigits_toDigits (n : ℕ) : AreDigits (Nat.toDigits 10 n) := by
  intro c hc
  exact Nat.isDigit_of_mem_toDigits (by omega) (by omega) hc

theorem digitsValue_toDigits (n : ℕ) : digitsValue (Nat.toDigits 10 n) = n :=
  Nat.ofDigitChars_ten_toDigits

/-- The digits of a positive number do not begin with a zero. -/
theorem head?_toDigits_ne_zero {n : ℕ} (hn : 0 < n) : (Nat.toDigits 10 n).head? ≠ some '0' := by
  have hdigit : ∀ m < 10, 0 < m → m.digitChar ≠ '0' := by decide
  induction n using Nat.strong_induction_on with
  | _ n ih =>
      by_cases hlt : n < 10
      · rw [Nat.toDigits_of_lt_base hlt, List.head?_cons]
        exact fun h => hdigit n hlt hn (Option.some.inj h)
      · have hdiv : 0 < n / 10 := by omega
        rw [Nat.toDigits_of_base_le (by omega) (by omega),
          List.head?_append_of_ne_nil _ Nat.toDigits_ne_nil]
        exact ih (n / 10) (by omega) hdiv

/-! ## Where a number ends -/

/-- The text does not go on with a digit. -/
def NoDigit (rest : List Char) : Prop := ∀ c ∈ rest.head?, c.isDigit = false

/-- The text does not go on with a part of a number. -/
structure EndsNumber (rest : List Char) : Prop where
  digit : NoDigit rest
  point : rest.head? ≠ some '.'
  lower : rest.head? ≠ some 'e'
  upper : rest.head? ≠ some 'E'

theorem span_isDigit_append {digits rest : List Char} (hdigits : AreDigits digits)
    (hrest : NoDigit rest) : (digits ++ rest).span Char.isDigit = (digits, rest) := by
  rw [List.span_eq_takeWhile_dropWhile, List.takeWhile_append_of_pos hdigits,
    List.dropWhile_append_of_pos hdigits]
  cases rest with
  | nil => simp
  | cons c rest =>
      have hc : c.isDigit = false := hrest c rfl
      simp [hc]

theorem parseFraction_of_ends {rest : List Char} (h : rest.head? ≠ some '.') :
    parseFraction rest = some ([], rest) := by
  unfold parseFraction
  split
  · exact absurd rfl h
  · rfl

theorem parseFraction_digits {digits rest : List Char} (hdigits : AreDigits digits)
    (hne : digits ≠ []) (hrest : NoDigit rest) :
    parseFraction ('.' :: (digits ++ rest)) = some (digits, rest) := by
  have hspan := span_isDigit_append hdigits hrest
  obtain ⟨d, digits, rfl⟩ := List.exists_cons_of_ne_nil hne
  simp only [parseFraction, hspan]

theorem parseExponent_of_ends {rest : List Char} (h : EndsNumber rest) :
    parseExponent rest = some (0, rest) := by
  cases rest with
  | nil => rfl
  | cons c rest =>
      have hlower : c ≠ 'e' := fun hc => h.lower (congrArg some hc)
      have hupper : c ≠ 'E' := fun hc => h.upper (congrArg some hc)
      simp [parseExponent, hlower, hupper]

theorem parseExponent_digits (negative : Bool) {digits rest : List Char}
    (hdigits : AreDigits digits) (hne : digits ≠ []) (hrest : NoDigit rest) :
    parseExponent ('e' :: (if negative then '-' else '+') :: (digits ++ rest)) =
      some (if negative then -(digitsValue digits : ℤ) else digitsValue digits, rest) := by
  obtain ⟨d, digits, rfl⟩ := List.exists_cons_of_ne_nil hne
  have hspan := span_isDigit_append hdigits hrest
  cases negative with
  | true => simp only [parseExponent, true_or, if_true, hspan]
  | false => simp only [parseExponent, true_or, if_true, Bool.false_eq_true, if_false, hspan]

/-- The value of a number from its parts. -/
theorem parseUnsigned_eq {whole tail fraction rest after : List Char} {exponent : ℤ}
    (hwhole : AreDigits whole) (hne : whole ≠ []) (hlead : whole.head? = some '0' → whole = ['0'])
    (htail : NoDigit tail) (hfraction : parseFraction tail = some (fraction, rest))
    (hexponent : parseExponent rest = some (exponent, after)) :
    parseUnsigned (whole ++ tail) = some ((digitsValue (whole ++ fraction) : ℚ) *
      (10 : ℚ) ^ (exponent - (fraction.length : ℤ)), after) := by
  unfold parseUnsigned
  rw [span_isDigit_append hwhole htail]
  split
  case h_1 tail' heq =>
    cases heq
    exact absurd rfl hne
  case h_2 second digits tail' heq =>
    cases heq
    cases hlead rfl
  case h_3 digits tail' _ _ heq =>
    cases heq
    simp [hfraction, hexponent]

/-! ## Decimals that are written -/

/-- Digits that are written for a positive number. -/
structure Significant (digits : List Char) : Prop where
  areDigits : AreDigits digits
  ne_nil : digits ≠ []
  lead : digits.head? ≠ some '0'

theorem noDigit_point (rest : List Char) : NoDigit ('.' :: rest) := by
  rintro c ⟨⟩
  rfl

theorem noDigit_exponent (rest : List Char) : NoDigit ('e' :: rest) := by
  rintro c ⟨⟩
  rfl

/-- An integer is written with its zeros. -/
theorem parseUnsigned_integer {digits rest : List Char} (h : Significant digits)
    (hrest : EndsNumber rest) (zeros : ℕ) :
    parseUnsigned (digits ++ List.replicate zeros '0' ++ rest) =
      some ((digitsValue digits : ℚ) * (10 : ℚ) ^ (zeros : ℤ), rest) := by
  have hlead : (digits ++ List.replicate zeros '0').head? ≠ some '0' := by
    rw [List.head?_append_of_ne_nil _ h.ne_nil]
    exact h.lead
  rw [parseUnsigned_eq (h.areDigits.append (areDigits_replicate_zero zeros))
    (List.append_ne_nil_of_left_ne_nil h.ne_nil _) (fun heq => absurd heq hlead) hrest.digit
    (parseFraction_of_ends hrest.point) (parseExponent_of_ends hrest), List.append_nil,
    digitsValue_append]
  simp

/-- A point inside of the digits. -/
theorem parseUnsigned_point {digits rest : List Char} (h : Significant digits)
    (hrest : EndsNumber rest) {point : ℕ} (hpos : 0 < point) (hlt : point < digits.length) :
    parseUnsigned (digits.take point ++ '.' :: (digits.drop point ++ rest)) =
      some ((digitsValue digits : ℚ) * (10 : ℚ) ^ ((point : ℤ) - digits.length), rest) := by
  have hwhole : AreDigits (digits.take point) := fun c hc => h.areDigits c (List.mem_of_mem_take hc)
  have hfraction : AreDigits (digits.drop point) := fun c hc => h.areDigits c (List.mem_of_mem_drop hc)
  have hne : digits.take point ≠ [] := by
    rw [ne_eq, List.take_eq_nil_iff, not_or]
    exact ⟨by omega, h.ne_nil⟩
  have hne' : digits.drop point ≠ [] := by
    rw [ne_eq, List.drop_eq_nil_iff]
    omega
  have hlead : (digits.take point).head? ≠ some '0' := by
    rw [List.head?_take, if_neg (by omega)]
    exact h.lead
  have hlength : ((digits.drop point).length : ℤ) = digits.length - point := by
    rw [List.length_drop]
    omega
  rw [parseUnsigned_eq hwhole hne (fun heq => absurd heq hlead) (noDigit_point _)
    (parseFraction_digits hfraction hne' hrest.digit) (parseExponent_of_ends hrest),
    List.take_append_drop, hlength]
  congr 4
  omega

/-- A point in front of the digits, with zeros between them. -/
theorem parseUnsigned_small {digits rest : List Char} (h : Significant digits)
    (hrest : EndsNumber rest) (zeros : ℕ) :
    parseUnsigned ('0' :: '.' :: (List.replicate zeros '0' ++ digits ++ rest)) =
      some ((digitsValue digits : ℚ) * (10 : ℚ) ^ (-(zeros : ℤ) - digits.length), rest) := by
  have hfraction : AreDigits (List.replicate zeros '0' ++ digits) :=
    (areDigits_replicate_zero zeros).append h.areDigits
  have hvalue : digitsValue (['0'] ++ (List.replicate zeros '0' ++ digits)) = digitsValue digits := by
    rw [← List.append_assoc, digitsValue_append, ← List.replicate_one, ← List.replicate_add,
      digitsValue_replicate_zero, zero_mul, zero_add]
  have hparse := @parseUnsigned_eq ['0'] _ _ _ _ _ (areDigits_replicate_zero 1) (by simp)
    (fun _ => rfl) (noDigit_point _)
    (parseFraction_digits hfraction (List.append_ne_nil_of_right_ne_nil _ h.ne_nil) hrest.digit)
    (parseExponent_of_ends hrest)
  rw [hvalue] at hparse
  rw [show '0' :: '.' :: (List.replicate zeros '0' ++ digits ++ rest) =
    ['0'] ++ '.' :: (List.replicate zeros '0' ++ digits ++ rest) from rfl, hparse]
  congr 4
  simp
  omega

/-- An exponent behind the digits, which have their point after the first one. -/
theorem parseUnsigned_exponent {d : Char} {more rest : List Char} (h : Significant (d :: more))
    (hrest : EndsNumber rest) (exponent : ℤ) :
    parseUnsigned ((if more = [] then [d] else d :: '.' :: more) ++ 'e' ::
        (if exponent < 0 then '-' else '+') :: (Nat.toDigits 10 exponent.natAbs ++ rest)) =
      some ((digitsValue (d :: more) : ℚ) * (10 : ℚ) ^ (exponent - more.length), rest) := by
  have hwhole : AreDigits [d] := fun c hc => h.areDigits c (List.mem_cons.2 (.inl (by simpa using hc)))
  have hlead : [d].head? ≠ some '0' := h.lead
  have hsigned := parseExponent_digits (decide (exponent < 0)) (areDigits_toDigits exponent.natAbs)
    Nat.toDigits_ne_nil hrest.digit
  have hvalue : (if exponent < 0 then -(digitsValue (Nat.toDigits 10 exponent.natAbs) : ℤ)
      else digitsValue (Nat.toDigits 10 exponent.natAbs)) = exponent := by
    rw [digitsValue_toDigits]
    split
    · omega
    · omega
  simp only [decide_eq_true_eq, hvalue] at hsigned
  -- a single digit has no point behind it
  cases more with
  | nil =>
      have hparse := parseUnsigned_eq hwhole (by simp) (fun heq => absurd heq hlead)
        (noDigit_exponent _) (parseFraction_of_ends (by simp)) hsigned
      rw [if_pos rfl, hparse]
      rfl
  | cons c more =>
      have hfraction : AreDigits (c :: more) := fun x hx => h.areDigits x (List.mem_cons_of_mem _ hx)
      have hparse := parseUnsigned_eq hwhole (by simp) (fun heq => absurd heq hlead)
        (noDigit_point _) (parseFraction_digits hfraction (by simp) (noDigit_exponent _)) hsigned
      rw [if_neg (by simp)]
      exact hparse

/-- Whatever notation is chosen, the text is read as the digits with their point. -/
theorem parseUnsigned_decimalText {digits rest : List Char} (h : Significant digits)
    (hrest : EndsNumber rest) (point : ℤ) :
    parseUnsigned ((decimalText digits point).toList ++ rest) =
      some ((digitsValue digits : ℚ) * (10 : ℚ) ^ (point - digits.length), rest) := by
  unfold decimalText
  dsimp only
  -- one case for each notation: an integer, a point inside, a point in front, an exponent
  split
  case isTrue hinteger =>
    have hzeros : ((point.toNat - digits.length : ℕ) : ℤ) = point - digits.length := by omega
    rw [String.toList_ofList, parseUnsigned_integer h hrest, hzeros]
  case isFalse hinteger =>
    split
    case isTrue hpoint =>
      have hlt : point.toNat < digits.length := by omega
      have hparse := parseUnsigned_point h hrest (by omega) hlt
      rw [Int.toNat_of_nonneg (by omega)] at hparse
      rw [String.toList_ofList, List.append_assoc, List.cons_append]
      exact hparse
    case isFalse hpoint =>
      split
      case isTrue hsmall =>
        have hparse := parseUnsigned_small h hrest (-point).toNat
        rw [Int.toNat_of_nonneg (by omega), neg_neg] at hparse
        rw [String.toList_ofList]
        exact hparse
      case isFalse hsmall =>
        obtain ⟨d, more, rfl⟩ := List.exists_cons_of_ne_nil h.ne_nil
        have hparse := parseUnsigned_exponent h hrest (point - 1)
        have hexponent : point - 1 - (more.length : ℤ) = point - ((d :: more).length : ℤ) := by
          rw [List.length_cons]
          omega
        rw [hexponent] at hparse
        have hsign : ∀ (negative : Prop) [Decidable negative],
            (if negative then "-" else "+").toList = [if negative then '-' else '+'] := by
          intro negative _
          split
          · rfl
          · rfl
        rw [← hparse]
        cases more with
        | nil => simp [hsign]
        | cons c more => simp [hsign]

/-! ## Finite decimals -/

/-- A number with finitely many decimal places. -/
def IsDecimal (q : ℚ) : Prop := ∃ k : ℕ, q.den ∣ 10 ^ k

/-- A divisor of a power of ten divides a small one. -/
theorem dvd_ten_pow_log {n m : ℕ} (hn : n ≠ 0) (h : n ∣ 10 ^ m) : n ∣ 10 ^ Nat.log 2 n := by
  rw [Nat.dvd_iff_prime_pow_dvd_dvd]
  intro p k hp hk
  rcases Nat.eq_zero_or_pos k with rfl | hpos
  · exact one_dvd _
  · have hten : p ∣ 10 := by
      have hpk : p ∣ p ^ k := dvd_pow_self p hpos.ne'
      exact hp.dvd_of_dvd_pow ((hpk.trans hk).trans h)
    have hle : 2 ^ k ≤ n := (Nat.pow_le_pow_left hp.two_le k).trans (Nat.le_of_dvd (by omega) hk)
    have hlog : k ≤ Nat.log 2 n := Nat.le_log_of_pow_le (by omega) hle
    exact (pow_dvd_pow_of_dvd hten k).trans (pow_dvd_pow 10 hlog)

theorem stripZeros_append (digits : List Char) :
    (stripZeros digits).1 ++ List.replicate (stripZeros digits).2 '0' = digits := by
  have hsplit := List.takeWhile_append_dropWhile (p := fun c => decide (c = '0')) (l := digits.reverse)
  have hzeros : digits.reverse.takeWhile (fun c => decide (c = '0')) =
      List.replicate (digits.reverse.takeWhile fun c => decide (c = '0')).length '0' := by
    apply List.eq_replicate_of_mem
    intro c hc
    have hzero := List.mem_takeWhile_imp hc
    exact of_decide_eq_true hzero
  have hlength := congrArg List.length hsplit
  rw [List.length_append, List.length_reverse] at hlength
  have hcount : (stripZeros digits).2 =
      (digits.reverse.takeWhile fun c => decide (c = '0')).length := by
    unfold stripZeros
    dsimp only
    rw [List.length_reverse]
    omega
  rw [hcount]
  apply List.reverse_injective
  rw [List.reverse_append, List.reverse_replicate, ← hzeros]
  unfold stripZeros
  dsimp only
  rw [List.reverse_reverse]
  exact hsplit

/-- The significant digits of a positive number. -/
theorem significant_stripZeros {n : ℕ} (hn : 0 < n) :
    Significant (stripZeros (Nat.toDigits 10 n)).1 := by
  have happend := stripZeros_append (Nat.toDigits 10 n)
  have hlead := head?_toDigits_ne_zero hn
  have hne : (stripZeros (Nat.toDigits 10 n)).1 ≠ [] := by
    intro hnil
    rw [hnil, List.nil_append] at happend
    have hvalue := digitsValue_toDigits n
    rw [← happend, digitsValue_replicate_zero] at hvalue
    omega
  refine ⟨?_, hne, ?_⟩
  · intro c hc
    apply areDigits_toDigits n
    rw [← happend]
    exact List.mem_append_left _ hc
  · rw [← happend, List.head?_append_of_ne_nil _ hne] at hlead
    exact hlead

/-- The digits of a finite decimal and the position of its point. -/
theorem exists_decimalDigits {q : ℚ} (hq : q ≠ 0) (h : IsDecimal q) :
    ∃ digits point, decimalDigits q = some (digits, point) ∧ Significant digits ∧
      (digitsValue digits : ℚ) * (10 : ℚ) ^ (point - digits.length) = |q| := by
  obtain ⟨m, hm⟩ := h
  have hfound : ((List.range (Nat.log 2 q.den + 1)).find? fun k => q.den ∣ 10 ^ k).isSome = true := by
    rw [List.find?_isSome]
    exact ⟨Nat.log 2 q.den, by simp, decide_eq_true (dvd_ten_pow_log q.den_ne_zero hm)⟩
  obtain ⟨k, hk⟩ := Option.isSome_iff_exists.1 hfound
  have hdvd : q.den ∣ 10 ^ k := by
    have hp := List.find?_some hk
    exact of_decide_eq_true hp
  obtain ⟨factor, hfactor⟩ := hdvd
  -- the digits are those of the number scaled by the first such power of ten
  have hquotient : 10 ^ k / q.den = factor := by
    rw [hfactor, Nat.mul_div_cancel_left _ q.den_pos]
  have hpos : 0 < q.num.natAbs * factor := by
    apply Nat.mul_pos
    · exact Int.natAbs_pos.2 (Rat.num_ne_zero.2 hq)
    · apply Nat.pos_of_ne_zero
      rintro rfl
      exact absurd hfactor (by simp)
  have hdigits : decimalDigits q = some ((stripZeros (Nat.toDigits 10 (q.num.natAbs * factor))).1,
      ((stripZeros (Nat.toDigits 10 (q.num.natAbs * factor))).1.length : ℤ) +
        (stripZeros (Nat.toDigits 10 (q.num.natAbs * factor))).2 - k) := by
    unfold decimalDigits
    rw [hk, Option.map_some, hquotient, Nat.toString_eq_repr, Nat.toList_repr]
  refine ⟨_, _, hdigits, significant_stripZeros hpos, ?_⟩
  -- what the stripped zeros leave out is made up for by the position of the point
  generalize hstrip : stripZeros (Nat.toDigits 10 (q.num.natAbs * factor)) = stripped
  have hvalue : digitsValue stripped.1 * 10 ^ stripped.2 = q.num.natAbs * factor := by
    have happend := stripZeros_append (Nat.toDigits 10 (q.num.natAbs * factor))
    rw [hstrip] at happend
    have hdigits := digitsValue_toDigits (q.num.natAbs * factor)
    rw [← happend, digitsValue_append, digitsValue_replicate_zero, List.length_replicate,
      add_zero] at hdigits
    exact hdigits
  have habs : |q| * 10 ^ k = q.num.natAbs * factor := by
    have hden : (q.den : ℚ) ≠ 0 := Nat.cast_ne_zero.2 q.den_ne_zero
    have hten : (10 : ℚ) ^ k = q.den * factor := by exact_mod_cast hfactor
    have hnum : |q| * q.den = q.num.natAbs := by
      rw [Nat.cast_natAbs, Int.cast_abs, ← Rat.mul_den_eq_num, abs_mul, Nat.abs_cast]
    rw [hten, ← mul_assoc, hnum]
  have hexponent : ((stripped.1.length : ℤ) + stripped.2 - k - stripped.1.length) =
      stripped.2 - k := by omega
  have hten : (10 : ℚ) ^ k ≠ 0 := pow_ne_zero k (by norm_num)
  rw [hexponent, zpow_sub₀ (by norm_num), zpow_natCast, zpow_natCast, ← mul_div_assoc,
    div_eq_iff hten, habs]
  exact_mod_cast hvalue

/-! ## Numbers -/

/-- A text without a sign is read as it is. -/
theorem parseNumber_of_parseUnsigned {text rest : List Char} {q : ℚ}
    (h : parseUnsigned text = some (q, rest)) : parseNumber text = some (q, rest) := by
  unfold parseNumber
  split
  · cases h
  · exact h

/-- A finite decimal is read back from its text. -/
theorem parseNumber_numberText {q : ℚ} (h : IsDecimal q) {rest : List Char}
    (hrest : EndsNumber rest) : parseNumber ((numberText q).toList ++ rest) = some (q, rest) := by
  unfold numberText
  by_cases hq : q = 0
  · rw [if_pos hq]
    apply parseNumber_of_parseUnsigned
    have hparse := @parseUnsigned_eq ['0'] _ _ _ _ _ (areDigits_replicate_zero 1) (by simp)
      (fun _ => rfl) hrest.digit (parseFraction_of_ends hrest.point) (parseExponent_of_ends hrest)
    rw [show ("0" : String).toList ++ rest = ['0'] ++ rest from rfl, hparse, hq]
    simp [digitsValue]
  · obtain ⟨digits, point, hdigits, hsignificant, hvalue⟩ := exists_decimalDigits hq h
    have hparse := parseUnsigned_decimalText hsignificant hrest point
    rw [hvalue] at hparse
    rw [if_neg hq, hdigits]
    by_cases hneg : q < 0
    · have hminus : (("-" ++ decimalText digits point : String).toList ++ rest) =
          '-' :: ((decimalText digits point).toList ++ rest) := by simp
      rw [if_pos hneg, hminus]
      show (parseUnsigned _).map _ = _
      rw [hparse, Option.map_some, abs_of_neg hneg]
      dsimp only
      rw [neg_neg]
    · dsimp only
      rw [if_neg hneg, String.empty_append]
      apply parseNumber_of_parseUnsigned
      rw [hparse, abs_of_nonneg (not_lt.1 hneg)]

theorem IsDecimal.neg {q : ℚ} (h : IsDecimal q) : IsDecimal (-q) := by
  obtain ⟨k, hk⟩ := h
  exact ⟨k, by rwa [Rat.neg_den]⟩

theorem isDecimal_mul_zpow (n : ℕ) (exponent : ℤ) : IsDecimal ((n : ℚ) * (10 : ℚ) ^ exponent) := by
  obtain ⟨k, rfl | rfl⟩ := Int.eq_nat_or_neg exponent
  · refine ⟨0, ?_⟩
    rw [zpow_natCast, ← Nat.cast_ofNat, ← Nat.cast_pow, ← Nat.cast_mul, Rat.den_natCast]
    exact one_dvd _
  · refine ⟨k, ?_⟩
    have hdvd := Rat.den_dvd (n : ℤ) ((10 ^ k : ℕ) : ℤ)
    rw [Rat.divInt_eq_div, Int.natCast_dvd_natCast, Int.cast_natCast, Int.cast_natCast,
      Nat.cast_pow, Nat.cast_ofNat] at hdvd
    rw [zpow_neg, zpow_natCast, ← div_eq_mul_inv]
    exact hdvd

/-- What is read is a finite decimal. -/
theorem isDecimal_of_parseUnsigned {text rest : List Char} {q : ℚ}
    (h : parseUnsigned text = some (q, rest)) : IsDecimal q := by
  unfold parseUnsigned at h
  split at h
  · cases h
  · cases h
  · obtain ⟨⟨fraction, after⟩, -, h⟩ := Option.bind_eq_some_iff.1 h
    obtain ⟨⟨exponent, last⟩, -, h⟩ := Option.bind_eq_some_iff.1 h
    cases h
    exact isDecimal_mul_zpow _ _

theorem isDecimal_of_parseNumber {text rest : List Char} {q : ℚ}
    (h : parseNumber text = some (q, rest)) : IsDecimal q := by
  unfold parseNumber at h
  split at h
  · obtain ⟨⟨n, tail⟩, hn, h⟩ := Option.map_eq_some_iff.1 h
    cases h
    exact (isDecimal_of_parseUnsigned hn).neg
  · exact isDecimal_of_parseUnsigned h

end Json
