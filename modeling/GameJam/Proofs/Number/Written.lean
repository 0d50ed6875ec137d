import GameJam.Number.Format
import GameJam.Proofs.Number.Shortest
import Mathlib.Data.List.TakeWhile

/-!
# Numbers as they are written

A number that is printed is a run of digits laid out in one of four ways: behind zeros and a point,
before zeros and a point, with the point among the digits, or as one digit, a point and an exponent.
Each of them is the text of a `Numeral`, and this file finds that numeral.  What is read from the
text is then a matter of the numeral alone.

## What is here

* `digitsValue_append`, `digitsValue_decimalText` — the value of a run of digits.
* `Numeral.text` and `Numeral.Regular` — the text of a numeral, and what makes it one that JSON
  allows: digits throughout, and no zero before other digits.
* `exists_numeral_writeDecimal` — the numeral of a decimal in print.
* `exists_numeral_write` — **the numeral of a finite number in print**, whose value is the number.
-/

set_option autoImplicit false

namespace GameJam

/-! ## Runs of digits -/

theorem digitsValue_eq (digits : List Char) : digitsValue digits = Nat.ofDigitChars 10 digits 0 :=
  rfl

theorem digitsValue_append (a b : List Char) :
    digitsValue (a ++ b) = digitsValue a * 10 ^ b.length + digitsValue b := by
  rw [digitsValue_eq, Nat.ofDigitChars_append, Nat.ofDigitChars_eq_ofDigitChars_zero, mul_comm]
  rfl

theorem digitsValue_replicate_zero (k : Nat) : digitsValue (List.replicate k '0') = 0 := by
  rw [digitsValue_eq, Nat.ofDigitChars_replicate_zero, mul_zero]

theorem digitsValue_decimalText (n : Nat) : digitsValue (decimalText n) = n :=
  Nat.ofDigitChars_ten_toDigits

theorem decimalText_ne_nil (n : Nat) : decimalText n ≠ [] :=
  Nat.toDigits_ne_nil

theorem isDigit_of_mem_decimalText {n : Nat} {c : Char} (h : c ∈ decimalText n) :
    c.isDigit = true :=
  Nat.isDigit_of_mem_toDigits (by decide) (by decide) h

/-- The digits of a number do not begin with a zero, unless it is zero. -/
theorem decimalText_head {n : Nat} (hn : 0 < n) :
    ∃ c rest, decimalText n = c :: rest ∧ c ≠ '0' := by
  induction n using Nat.strong_induction_on with
  | _ n ih =>
    rcases Nat.lt_or_ge n 10 with hlt | hge
    · refine ⟨n.digitChar, [], Nat.toDigits_of_lt_base hlt, ?_⟩
      rw [Ne, Nat.digitChar_eq_zero]
      omega
    · obtain ⟨c, rest, htext, hc⟩ := ih (n / 10) (by omega) (by omega)
      refine ⟨c, rest ++ [(n % 10).digitChar], ?_, hc⟩
      rw [decimalText, Nat.toDigits_of_base_le (by decide) hge]
      rw [decimalText] at htext
      rw [htext, List.cons_append]

theorem exists_replicate_of_strip (digits : List Char) :
    ∃ k, digits = (digits.reverse.dropWhile (· == '0')).reverse ++ List.replicate k '0' := by
  refine ⟨(digits.reverse.takeWhile (· == '0')).length, ?_⟩
  have hzeros : digits.reverse.takeWhile (· == '0')
      = List.replicate (digits.reverse.takeWhile (· == '0')).length '0' := by
    refine List.eq_replicate_of_mem fun c hc => ?_
    simpa using List.mem_takeWhile_imp hc
  have hsplit := congrArg List.reverse
    (List.takeWhile_append_dropWhile (p := (· == '0')) (l := digits.reverse))
  rw [List.reverse_append, List.reverse_reverse] at hsplit
  conv_lhs => rw [← hsplit, hzeros, List.reverse_replicate]

/-! ## Numerals -/

namespace Numeral

/-- The text of a numeral: a point only before digits, and an exponent only if it is not zero. -/
def text (n : Numeral) : List Char :=
  (if n.negative then ['-'] else []) ++ n.whole
    ++ (if n.fraction = [] then [] else '.' :: n.fraction)
    ++ (if n.exponent = 0 then []
      else 'e' :: ((if 0 ≤ n.exponent then ['+'] else []) ++ integerText n.exponent))

/-- The numerals that JSON allows. -/
structure Regular (n : Numeral) : Prop where
  /-- A zero stands alone before the point. -/
  leading : n.whole = ['0'] ∨ ∃ c rest, n.whole = c :: rest ∧ c ≠ '0'
  whole : ∀ c ∈ n.whole, c.isDigit = true
  fraction : ∀ c ∈ n.fraction, c.isDigit = true

/-- Is it written with a point or with an exponent, so that it does not read as a whole number? -/
def IsReal (n : Numeral) : Prop :=
  n.fraction ≠ [] ∨ n.exponent ≠ 0

end Numeral

/-! ## The numeral of a decimal in print -/

section Layout

variable {digits : List Char} {c : Char} {rest : List Char}

/-- A run of digits behind zeros and a point. -/
theorem exists_numeral_of_point_nonpos (hhead : digits = c :: rest)
    (hdigits : ∀ d ∈ digits, d.isDigit = true) {point : Int} (hpoint : point ≤ 0) :
    ∃ n : Numeral, RealFormat.positionalText ['.', '0'] digits point = n.text ∧
      n.negative = false ∧ n.Regular ∧ n.IsReal ∧
      n.decimal = ⟨digitsValue digits, point - digits.length⟩ := by
  have hfraction : ∀ d ∈ List.replicate (-point).toNat '0' ++ digits, d.isDigit = true := by
    intro d hd
    rcases List.mem_append.1 hd with hd | hd
    · rw [List.eq_of_mem_replicate hd]; rfl
    · exact hdigits d hd
  refine ⟨⟨false, ['0'], List.replicate (-point).toNat '0' ++ digits, 0⟩, ?_, rfl,
    ⟨Or.inl rfl, by simp, hfraction⟩, Or.inl (by simp [hhead]), ?_⟩
  · simp [RealFormat.positionalText, hpoint, Numeral.text, hhead]
  · have hvalue : digitsValue (['0'] ++ (List.replicate (-point).toNat '0' ++ digits))
        = digitsValue digits := by
      rw [digitsValue_append, digitsValue_append, digitsValue_replicate_zero]
      simp [digitsValue, digitValue]
    refine congrArg₂ Decimal.mk hvalue ?_
    simp only [List.length_append, List.length_replicate]
    omega

/-- A run of digits before zeros and a point. -/
theorem exists_numeral_of_length_le (hhead : digits = c :: rest) (hc : c ≠ '0')
    (hdigits : ∀ d ∈ digits, d.isDigit = true) {point : Int} (hpoint : 0 < point)
    (hlength : digits.length ≤ point.toNat) :
    ∃ n : Numeral, RealFormat.positionalText ['.', '0'] digits point = n.text ∧
      n.negative = false ∧ n.Regular ∧ n.IsReal ∧
      ∃ k : Nat, n.decimal = ⟨digitsValue digits * 10 ^ k, point - digits.length - k⟩ := by
  have hwhole : ∀ d ∈ digits ++ List.replicate (point.toNat - digits.length) '0',
      d.isDigit = true := by
    intro d hd
    rcases List.mem_append.1 hd with hd | hd
    · exact hdigits d hd
    · rw [List.eq_of_mem_replicate hd]; rfl
  refine ⟨⟨false, digits ++ List.replicate (point.toNat - digits.length) '0', ['0'], 0⟩, ?_, rfl,
    ⟨Or.inr ⟨c, rest ++ List.replicate (point.toNat - digits.length) '0', by simp [hhead], hc⟩,
      hwhole, by simp⟩, Or.inl (by simp), point.toNat - digits.length + 1, ?_⟩
  · simp [RealFormat.positionalText, Int.not_le.2 hpoint, hlength, Numeral.text]
  · have hvalue : digitsValue
        (digits ++ List.replicate (point.toNat - digits.length) '0' ++ ['0'])
        = digitsValue digits * 10 ^ (point.toNat - digits.length + 1) := by
      rw [List.append_assoc, digitsValue_append, ← List.replicate_succ',
        digitsValue_replicate_zero, List.length_replicate, add_zero]
    refine congrArg₂ Decimal.mk hvalue ?_
    simp only [List.length_cons, List.length_nil]
    omega

/-- A run of digits with the point among them. -/
theorem exists_numeral_of_lt_length (hhead : digits = c :: rest) (hc : c ≠ '0')
    (hdigits : ∀ d ∈ digits, d.isDigit = true) {point : Int} (hpoint : 0 < point)
    (hlength : point.toNat < digits.length) :
    ∃ n : Numeral, RealFormat.positionalText ['.', '0'] digits point = n.text ∧
      n.negative = false ∧ n.Regular ∧ n.IsReal ∧
      n.decimal = ⟨digitsValue digits, point - digits.length⟩ := by
  have hdrop : digits.drop point.toNat ≠ [] := by
    rw [Ne, List.drop_eq_nil_iff]
    omega
  have htake : digits.take point.toNat = c :: rest.take (point.toNat - 1) := by
    rw [hhead, List.take_cons (by omega)]
  refine ⟨⟨false, digits.take point.toNat, digits.drop point.toNat, 0⟩, ?_, rfl,
    ⟨Or.inr ⟨c, rest.take (point.toNat - 1), htake, hc⟩,
      fun d hd => hdigits d (List.mem_of_mem_take hd),
      fun d hd => hdigits d (List.mem_of_mem_drop hd)⟩, Or.inl hdrop, ?_⟩
  · rw [RealFormat.positionalText, if_neg (by omega), if_neg (by omega), Numeral.text,
      if_neg (by simp), if_neg hdrop, if_pos rfl]
    simp
  · refine congrArg₂ Decimal.mk ?_ ?_
    · rw [List.take_append_drop]
    · simp only [List.length_drop]
      omega

/-- A digit, a point before the others, and an exponent. -/
theorem exists_numeral_exponentText (hhead : digits = c :: rest) (hc : c ≠ '0')
    (hdigits : ∀ d ∈ digits, d.isDigit = true) {k : Int} (hk : k ≠ 0) :
    ∃ n : Numeral, RealFormat.exponentText ['+'] digits k = n.text ∧
      n.negative = false ∧ n.Regular ∧ n.IsReal ∧
      n.decimal = ⟨digitsValue digits, k + 1 - digits.length⟩ := by
  subst hhead
  refine ⟨⟨false, [c], rest, k⟩, ?_, rfl, ⟨Or.inr ⟨c, [], rfl, hc⟩, ?_, ?_⟩, Or.inr hk, ?_⟩
  · cases rest <;> simp [RealFormat.exponentText, Numeral.text, hk]
  · intro d hd
    exact hdigits d (by simp_all)
  · exact fun d hd => hdigits d (List.mem_cons_of_mem _ hd)
  · refine congrArg₂ Decimal.mk rfl ?_
    simp only [List.length_cons]
    omega

end Layout

/-- A run of digits in print, wherever the format puts the point. -/
theorem exists_numeral_layout {digits : List Char} {c : Char} {rest : List Char}
    (hhead : digits = c :: rest) (hc : c ≠ '0') (hdigits : ∀ d ∈ digits, d.isDigit = true)
    (point : Int) :
    ∃ n : Numeral,
      (if RealFormat.json.positional (point - 1) then
          RealFormat.positionalText RealFormat.json.wholeEnd.toList digits point
        else RealFormat.exponentText RealFormat.json.exponentSign.toList digits (point - 1))
        = n.text ∧
      n.negative = false ∧ n.Regular ∧ n.IsReal ∧
      ∃ k : Nat, n.decimal = ⟨digitsValue digits * 10 ^ k, point - digits.length - k⟩ := by
  have hword : RealFormat.json.wholeEnd.toList = ['.', '0'] ∧
      RealFormat.json.exponentSign.toList = ['+'] := by decide
  rw [hword.1, hword.2]
  by_cases hformat : RealFormat.json.positional (point - 1) = true
  · rw [if_pos hformat]
    by_cases hleft : point ≤ 0
    · obtain ⟨n, htext, hsign, hregular, hreal, hdecimal⟩ :=
        exists_numeral_of_point_nonpos hhead hdigits hleft
      exact ⟨n, htext, hsign, hregular, hreal, 0, by simp [hdecimal]⟩
    · have hright : 0 < point := by omega
      rcases Nat.lt_or_ge point.toNat digits.length with hmiddle | hend
      · obtain ⟨n, htext, hsign, hregular, hreal, hdecimal⟩ :=
          exists_numeral_of_lt_length hhead hc hdigits hright hmiddle
        exact ⟨n, htext, hsign, hregular, hreal, 0, by simp [hdecimal]⟩
      · exact exists_numeral_of_length_le hhead hc hdigits hright hend
  · rw [if_neg hformat]
    have hexp : point - 1 ≠ 0 := by
      intro hzero
      rw [hzero] at hformat
      exact hformat (by decide)
    obtain ⟨n, htext, hsign, hregular, hreal, hdecimal⟩ :=
      exists_numeral_exponentText hhead hc hdigits hexp
    refine ⟨n, htext, hsign, hregular, hreal, 0, ?_⟩
    rw [hdecimal]
    simp

/-- **The numeral of a decimal in print.**  The zeros at the end of the digits are not written, and
others are, but the value is the same. -/
theorem exists_numeral_writeDecimal {d : Decimal} (hd : 0 < d.digits) :
    ∃ n : Numeral, RealFormat.json.writeDecimal d = n.text ∧ n.negative = false ∧ n.Regular ∧
      n.IsReal ∧ ∀ negative, n.decimal.toBinary64 negative = d.toBinary64 negative := by
  obtain ⟨c, rest, htext, hc⟩ := decimalText_head hd
  obtain ⟨z, hstrip⟩ := exists_replicate_of_strip (decimalText d.digits)
  rw [RealFormat.writeDecimal]
  generalize hdigits : ((decimalText d.digits).reverse.dropWhile (· == '0')).reverse = digits
    at hstrip ⊢
  have hvalue : d.digits = digitsValue digits * 10 ^ z := by
    conv_lhs => rw [← digitsValue_decimalText d.digits, hstrip, digitsValue_append,
      digitsValue_replicate_zero, List.length_replicate, add_zero]
  have hlength : (decimalText d.digits).length = digits.length + z := by
    rw [hstrip, List.length_append, List.length_replicate]
  obtain ⟨rest', hhead⟩ : ∃ rest', digits = c :: rest' := by
    cases digits with
    | nil =>
      have hzeros : c ∈ List.replicate z '0' := by
        rw [← List.nil_append (List.replicate z '0'), ← hstrip, htext]
        exact List.mem_cons_self
      exact absurd (List.eq_of_mem_replicate hzeros) hc
    | cons c' rest' =>
      rw [htext, List.cons_append, List.cons.injEq] at hstrip
      exact ⟨rest', by rw [hstrip.1]⟩
  have hall : ∀ d' ∈ digits, d'.isDigit = true := by
    intro d' hd'
    refine isDigit_of_mem_decimalText (n := d.digits) ?_
    rw [hstrip]
    exact List.mem_append_left _ hd'
  obtain ⟨n, hn, hsign, hregular, hreal, k, hdecimal⟩ := exists_numeral_layout hhead hc hall
    ((decimalText d.digits).length + d.exponent)
  refine ⟨n, hn, hsign, hregular, hreal, fun negative => ?_⟩
  calc n.decimal.toBinary64 negative
      = Decimal.toBinary64 negative ⟨digitsValue digits, d.exponent + z⟩ := by
        rw [hdecimal, Decimal.toBinary64_shift, hlength]
        congr 2
        omega
    _ = Decimal.toBinary64 negative ⟨digitsValue digits * 10 ^ z, d.exponent + z - z⟩ :=
        (Decimal.toBinary64_shift ..).symm
    _ = d.toBinary64 negative := by rw [← hvalue, add_sub_cancel_right]

/-! ## The numeral of a number in print -/

/-- **A finite number in print is the text of a numeral whose value it is**, written with a point or
with an exponent. -/
theorem exists_numeral_write {x : Binary64} (hx : x.isFinite = true) :
    ∃ n : Numeral, RealFormat.json.write x = n.text ∧ n.Regular ∧ n.IsReal ∧ n.value = x := by
  cases x with
  | nan => cases hx
  | infinite negative => cases hx
  | finite negative m e h =>
    by_cases hm : m = 0
    · -- zero is written with a point, whatever its sign
      subst hm
      obtain rfl : e = 0 := h.2.2.resolve_left (by decide)
      refine ⟨⟨negative, ['0'], ['0'], 0⟩, ?_, ⟨Or.inl rfl, by simp, by simp⟩,
        Or.inl (by simp), by cases negative <;> rfl⟩
      cases negative <;> rfl
    · obtain ⟨n, htext, hsign, hregular, hreal, hvalue⟩ :=
        exists_numeral_writeDecimal (Binary64.digits_shortest_pos RealFormat.json.tie h hm)
      refine ⟨{ n with negative }, ?_, ⟨hregular.leading, hregular.whole, hregular.fraction⟩,
        hreal, ?_⟩
      · rw [RealFormat.write, if_neg hm, htext]
        cases negative <;> simp [Numeral.text, hsign]
      · exact (hvalue negative).trans (Binary64.toBinary64_shortest negative _ h)

end GameJam
