import GameJam.Json.Draft
import GameJam.Json.Write
import GameJam.Proofs.Number.Written

/-!
# Reading a written number

The reader of JSON texts takes a number one character at a time and knows only at the character
behind it that it has ended.  This file follows it through the text of a regular numeral and says
what it then holds, what that is worth, and which characters end it.

## What is here

* `Numeral.numberText` — the state in which the reader has taken a whole numeral.
* `foldl_text` — **the reader gets there**, from any place where a value may stand.
* `push_of_isComplete` — a character that no number goes on with ends it.
* `value_numberText_of_isReal`, `value_wholeNumeral` — what has been read.
* `isFinite_of_value` — it is finite, whatever the text.
* `Number.asRead` and `exists_numeral_writeNumber` — how a number comes back that was written: one
  that is not finite as `null`.
-/

set_option autoImplicit false

namespace GameJam

open Json (NumberText NumberPhase Frame State)

/-- What the reader holds after a numeral. -/
def Numeral.numberText (n : Numeral) : NumberText where
  phase :=
    if n.exponent ≠ 0 then .exponent
    else if n.fraction ≠ [] then .fraction
    else if n.whole = ['0'] then .zero
    else .whole
  negative := n.negative
  whole := n.whole.reverse
  fraction := n.fraction.reverse
  exponentNegative := n.exponent < 0
  exponent := if n.exponent = 0 then [] else (decimalText n.exponent.natAbs).reverse

namespace Json

/-! ## Character by character -/

section Steps

variable {stack : List Frame}

theorem step_number {n n' : NumberText} {c : Char} (h : n.push c = .more n') :
    State.step ⟨stack, .number n⟩ c = ⟨stack, .number n'⟩ := by
  simp [State.step, h]

theorem not_isBlank_of_isDigit {c : Char} (h : c.isDigit = true) : isBlank c = false := by
  rw [isBlank, Bool.eq_false_iff]
  simp only [ne_eq, Bool.or_eq_true, decide_eq_true_eq]
  rintro (((rfl | rfl) | rfl) | rfl) <;> exact absurd h (by decide)

/-- A number may begin wherever a value may. -/
theorem step_value_of_start? {c : Char} {n : NumberText} (h : NumberText.start? c = some n) :
    State.step ⟨stack, .value⟩ c = ⟨stack, .number n⟩ := by
  have hchar : c = '-' ∨ c.isDigit = true := by
    by_cases hzero : c = '0'
    · exact Or.inr (by rw [hzero]; rfl)
    · unfold NumberText.start? at h
      grind
  have hblank : isBlank c = false := by
    rcases hchar with rfl | hdigit
    · decide
    · exact not_isBlank_of_isDigit hdigit
  have hothers : c ≠ '"' ∧ c ≠ '[' ∧ c ≠ '{' ∧ c ≠ 'n' ∧ c ≠ 't' ∧ c ≠ 'f' := by
    refine ⟨?_, ?_, ?_, ?_, ?_, ?_⟩ <;>
      (rintro rfl; rcases hchar with hminus | hdigit
       · exact absurd hminus (by decide)
       · exact absurd hdigit (by decide))
  simp [State.step, State.structural, hblank, State.begin, hothers, h]

/-- Digits, wherever the reader collects them. -/
theorem foldl_digits (collect : List Char → NumberText)
    (hpush : ∀ d collected, d.isDigit = true →
      (collect collected).push d = .more (collect (d :: collected))) (digits : List Char) :
    ∀ collected, (∀ d ∈ digits, d.isDigit = true) →
      digits.foldl State.step ⟨stack, .number (collect collected)⟩
        = ⟨stack, .number (collect (digits.reverse ++ collected))⟩ := by
  induction digits with
  | nil => exact fun _ _ => rfl
  | cons d digits ih =>
    intro collected hdigits
    rw [List.forall_mem_cons] at hdigits
    rw [List.foldl_cons, step_number (hpush d collected hdigits.1), ih _ hdigits.2,
      List.reverse_cons, List.append_assoc, List.singleton_append]

end Steps

/-! ## Part by part -/

section Parts

variable {stack : List Frame}

/-- The sign and the digits before the point. -/
theorem foldl_whole {n : Numeral} (h : n.Regular) :
    ((if n.negative then ['-'] else []) ++ n.whole).foldl State.step ⟨stack, .value⟩
      = ⟨stack, .number ⟨if n.whole = ['0'] then .zero else .whole, n.negative, n.whole.reverse,
          [], false, []⟩⟩ := by
  have hminus : State.step ⟨stack, .value⟩ '-'
      = ⟨stack, .number ⟨.sign, true, [], [], false, []⟩⟩ := step_value_of_start? rfl
  -- A leading zero stands alone, and any other first digit may be followed by more.
  rcases h.leading with hzero | ⟨c, rest, hwhole, hc⟩
  · rw [if_pos hzero, hzero]
    cases n.negative with
    | false =>
      have hstart : NumberText.start? '0' = some ⟨.zero, false, ['0'], [], false, []⟩ := rfl
      exact step_value_of_start? hstart
    | true =>
      have hfirst : NumberText.push ⟨.sign, true, [], [], false, []⟩ '0'
          = .more ⟨.zero, true, ['0'], [], false, []⟩ := rfl
      rw [if_pos rfl, List.singleton_append, List.foldl_cons, hminus]
      exact step_number hfirst
  · have hdigits := h.whole
    rw [hwhole, List.forall_mem_cons] at hdigits
    have hrest : ∀ negative, rest.foldl State.step
        ⟨stack, .number ⟨.whole, negative, [c], [], false, []⟩⟩
        = ⟨stack, .number ⟨.whole, negative, (c :: rest).reverse, [], false, []⟩⟩ := by
      intro negative
      rw [List.reverse_cons]
      exact foldl_digits (fun collected => ⟨.whole, negative, collected, [], false, []⟩)
        (by intro d _ hd; simp [NumberText.push, hd]) rest [c] hdigits.2
    have hleading : n.whole ≠ ['0'] := by
      rw [hwhole]
      simp [hc]
    rw [if_neg hleading, hwhole]
    cases n.negative with
    | false =>
      have hstart : NumberText.start? c = some ⟨.whole, false, [c], [], false, []⟩ := by
        have hsign : c ≠ '-' := by rintro rfl; exact absurd hdigits.1 (by decide)
        simp [NumberText.start?, hsign, hc, hdigits.1]
      rw [if_neg (by simp), List.nil_append, List.foldl_cons, step_value_of_start? hstart, hrest]
    | true =>
      have hfirst : NumberText.push ⟨.sign, true, [], [], false, []⟩ c
          = .more ⟨.whole, true, [c], [], false, []⟩ := by
        simp [NumberText.push, hc, hdigits.1]
      rw [if_pos rfl, List.singleton_append, List.foldl_cons, hminus, List.foldl_cons,
        step_number hfirst, hrest]

/-- A numeral begins with its sign or a digit. -/
theorem exists_cons_text {n : Numeral} (h : n.Regular) :
    ∃ c rest, n.text = c :: rest ∧ (c = '-' ∨ c.isDigit = true) := by
  obtain ⟨d, digits, hwhole⟩ : ∃ d digits, n.whole = d :: digits := by
    rcases h.leading with hzero | ⟨c, rest, hwhole, -⟩
    · exact ⟨'0', [], hzero⟩
    · exact ⟨c, rest, hwhole⟩
  have hdigit : d.isDigit = true := h.whole d (by rw [hwhole]; exact List.mem_cons_self)
  rw [Numeral.text, hwhole]
  cases n.negative with
  | true => exact ⟨'-', _, rfl, Or.inl rfl⟩
  | false => exact ⟨d, _, rfl, Or.inr hdigit⟩

/-- The point and the digits behind it. -/
theorem foldl_fraction {phase : NumberPhase} (hphase : phase = .zero ∨ phase = .whole)
    (negative : Bool) (whole : List Char) {fraction : List Char} (hne : fraction ≠ [])
    (hdigits : ∀ d ∈ fraction, d.isDigit = true) :
    ('.' :: fraction).foldl State.step ⟨stack, .number ⟨phase, negative, whole, [], false, []⟩⟩
      = ⟨stack, .number ⟨.fraction, negative, whole, fraction.reverse, false, []⟩⟩ := by
  obtain ⟨d, rest, rfl⟩ := List.exists_cons_of_ne_nil hne
  rw [List.forall_mem_cons] at hdigits
  have hpoint : NumberText.push ⟨phase, negative, whole, [], false, []⟩ '.'
      = .more ⟨.point, negative, whole, [], false, []⟩ := by
    rcases hphase with rfl | rfl <;> rfl
  have hfirst : NumberText.push ⟨.point, negative, whole, [], false, []⟩ d
      = .more ⟨.fraction, negative, whole, [d], false, []⟩ := by
    simp [NumberText.push, hdigits.1]
  rw [List.foldl_cons, step_number hpoint, List.foldl_cons, step_number hfirst,
    foldl_digits (fun collected => ⟨.fraction, negative, whole, collected, false, []⟩)
      (by intro d' _ hd'; simp [NumberText.push, hd']) rest [d] hdigits.2, List.reverse_cons]

/-- The exponent. -/
theorem foldl_exponent {phase : NumberPhase}
    (hphase : phase = .zero ∨ phase = .whole ∨ phase = .fraction) (negative : Bool)
    (whole fraction : List Char) (k : Int) :
    ('e' :: ((if 0 ≤ k then ['+'] else []) ++ integerText k)).foldl State.step
        ⟨stack, .number ⟨phase, negative, whole, fraction, false, []⟩⟩
      = ⟨stack, .number ⟨.exponent, negative, whole, fraction, k < 0,
          (decimalText k.natAbs).reverse⟩⟩ := by
  have hmark : NumberText.push ⟨phase, negative, whole, fraction, false, []⟩ 'e'
      = .more ⟨.exponentMark, negative, whole, fraction, false, []⟩ := by
    rcases hphase with rfl | rfl | rfl <;> rfl
  have hsigned : (if 0 ≤ k then ['+'] else []) ++ integerText k
      = (if k < 0 then '-' else '+') :: decimalText k.natAbs := by
    by_cases hneg : k < 0
    · simp [integerText, hneg, Int.not_le.2 hneg]
    · simp [integerText, hneg, Int.not_lt.1 hneg]
  have hsign : NumberText.push ⟨.exponentMark, negative, whole, fraction, false, []⟩
        (if k < 0 then '-' else '+')
      = .more ⟨.exponentSign, negative, whole, fraction, k < 0, []⟩ := by
    by_cases hneg : k < 0 <;> simp [NumberText.push, hneg]
  obtain ⟨d, rest, htext⟩ := List.exists_cons_of_ne_nil (decimalText_ne_nil k.natAbs)
  have hdigits : ∀ c ∈ d :: rest, c.isDigit = true := by
    intro c hc
    exact isDigit_of_mem_decimalText (htext ▸ hc)
  rw [List.forall_mem_cons] at hdigits
  have hfirst : NumberText.push ⟨.exponentSign, negative, whole, fraction, k < 0, []⟩ d
      = .more ⟨.exponent, negative, whole, fraction, k < 0, [d]⟩ := by
    simp [NumberText.push, hdigits.1]
  rw [List.foldl_cons, step_number hmark, hsigned, List.foldl_cons, step_number hsign, htext,
    List.foldl_cons, step_number hfirst,
    foldl_digits (fun collected => ⟨.exponent, negative, whole, fraction, k < 0, collected⟩)
      (by intro d' _ hd'; simp [NumberText.push, hd']) rest [d] hdigits.2, List.reverse_cons]

/-- **The reader takes the whole numeral.** -/
theorem foldl_text {n : Numeral} (h : n.Regular) :
    n.text.foldl State.step ⟨stack, .value⟩ = ⟨stack, .number n.numberText⟩ := by
  have hphase : (if n.whole = ['0'] then NumberPhase.zero else .whole) = .zero ∨
      (if n.whole = ['0'] then NumberPhase.zero else .whole) = .whole := by
    split <;> simp
  rw [Numeral.text, List.foldl_append, List.foldl_append, foldl_whole h]
  by_cases hfraction : n.fraction = []
  · rw [if_pos hfraction, List.foldl_nil]
    by_cases hexp : n.exponent = 0
    · simp [hexp, hfraction, Numeral.numberText]
    · rw [if_neg hexp, foldl_exponent (hphase.imp_right Or.inl)]
      simp [hexp, hfraction, Numeral.numberText]
  · rw [if_neg hfraction, foldl_fraction hphase _ _ hfraction h.fraction]
    by_cases hexp : n.exponent = 0
    · simp [hexp, hfraction, Numeral.numberText]
    · rw [if_neg hexp, foldl_exponent (Or.inr (Or.inr rfl))]
      simp [hexp, Numeral.numberText]

end Parts

/-! ## What has been read -/

theorem isComplete_numberText (n : Numeral) : n.numberText.isComplete = true := by
  simp only [NumberText.isComplete, Numeral.numberText]
  split_ifs <;> rfl

/-- Characters that a number may go on with. -/
def goesOn (c : Char) : Prop :=
  c.isDigit = true ∨ c = '.' ∨ c = 'e' ∨ c = 'E'

/-- **Any other character ends a number** that may end. -/
theorem push_of_isComplete {n : NumberText} (h : n.isComplete = true) {c : Char}
    (hc : ¬goesOn c) : n.push c = .ended := by
  simp only [goesOn, not_or] at hc
  obtain ⟨hdigit, hpoint, hlower, hupper⟩ := hc
  have hafter : n.afterWhole c = .ended := by
    rw [NumberText.afterWhole, if_neg hpoint, if_neg (not_or.2 ⟨hlower, hupper⟩)]
  unfold NumberText.isComplete at h
  unfold NumberText.push
  split at h
  case h_5 => cases h
  all_goals
    rename_i hphase
    rw [hphase]
    dsimp only
    rw [if_neg hdigit]
  · exact hafter
  · exact hafter
  · rw [if_neg (not_or.2 ⟨hlower, hupper⟩)]

theorem numeral_numberText (n : Numeral) : n.numberText.numeral = n := by
  obtain ⟨negative, whole, fraction, exponent⟩ := n
  simp only [NumberText.numeral, Numeral.numberText, List.reverse_reverse, Numeral.mk.injEq,
    true_and, decide_eq_true_eq]
  by_cases hexp : exponent = 0
  · simp [hexp, digitsValue]
  · rw [if_neg hexp, List.reverse_reverse, digitsValue_decimalText]
    split <;> omega

/-- A numeral with a point or an exponent is a real number, if it is in range. -/
theorem value_numberText_of_isReal {n : Numeral} (h : n.IsReal)
    (hfinite : n.value.isFinite = true) : n.numberText.value = .ok (.real n.value) := by
  have hreal : n.numberText.real = .ok (.real n.value) := by
    rw [NumberText.real, numeral_numberText]
    cases hvalue : n.value with
    | finite negative m e canonical => rfl
    | nan => simp [hvalue, Binary64.isFinite] at hfinite
    | infinite negative => simp [hvalue, Binary64.isFinite] at hfinite
  by_cases hexp : n.exponent = 0
  · have hfraction : n.fraction ≠ [] := h.resolve_right (by simp [hexp])
    rw [← hreal]
    simp [NumberText.value, Numeral.numberText, hexp, hfraction]
  · rw [← hreal]
    simp [NumberText.value, Numeral.numberText, hexp]

/-- The number is neither infinite nor a NaN. -/
def Number.IsFinite (n : Number) : Prop :=
  n.toBinary64.isFinite = true

/-- **What a text writes as a number is finite**: a real number out of range is an error, and whole
numbers of 64 bits are in range. -/
theorem isFinite_of_value {n : NumberText} {k : Number} (h : n.value = .ok k) : k.IsFinite := by
  have hreal : ∀ {k : Number}, n.real = .ok k → k.IsFinite := by
    intro k hk
    rw [NumberText.real] at hk
    have hnan : n.numeral.value ≠ .nan := Decimal.toBinary64_ne_nan _ _
    cases hvalue : n.numeral.value with
    | finite negative m e canonical =>
      rw [hvalue] at hk
      obtain rfl := Except.ok.inj hk
      rfl
    | nan => exact absurd hvalue hnan
    | infinite negative => simp [hvalue] at hk
  have hnatural (m : UInt64) : (Number.natural m).IsFinite := by
    have hlt := UInt64.toNat_lt m
    exact Binary64.isFinite_ofInt (by omega)
  have hnegative (m : Int64) : (Number.negative m).IsFinite := by
    have hle := Int64.le_toInt m
    have hlt := Int64.toInt_lt m
    exact Binary64.isFinite_ofInt (by omega)
  unfold NumberText.value at h
  -- Only a number without a point and without an exponent may be a whole one.
  split at h
  case h_3 => exact hreal h
  all_goals
    dsimp only at h
    split_ifs at h
    · obtain rfl := Except.ok.inj h
      exact hnegative _
    · exact hreal h
    · obtain rfl := Except.ok.inj h
      exact hnatural _
    · exact hreal h

/-- The numeral of a whole number. -/
def wholeNumeral (negative : Bool) (k : Nat) : Numeral :=
  ⟨negative, decimalText k, [], 0⟩

theorem regular_wholeNumeral (negative : Bool) (k : Nat) : (wholeNumeral negative k).Regular := by
  refine ⟨?_, fun d hd => isDigit_of_mem_decimalText hd, by simp [wholeNumeral]⟩
  rcases Nat.eq_zero_or_pos k with rfl | hk
  · exact Or.inl rfl
  · exact Or.inr (decimalText_head hk)

theorem text_wholeNumeral (negative : Bool) (k : Nat) :
    (wholeNumeral negative k).text = (if negative then ['-'] else []) ++ decimalText k := by
  cases negative <;> simp [wholeNumeral, Numeral.text]

/-- What has been read of a whole number is decided by its magnitude and its sign. -/
theorem value_wholeNumeral (negative : Bool) (k : Nat) :
    (wholeNumeral negative k).numberText.value =
      if negative then
        if 0 < k ∧ k ≤ Nat.pow 2 63 then .ok (.negative (Int64.ofInt (-(k : Int))))
        else (wholeNumeral negative k).numberText.real
      else if k < UInt64.size then .ok (.natural (UInt64.ofNat k))
      else (wholeNumeral negative k).numberText.real := by
  have hvalue : digitsValue (wholeNumeral negative k).numberText.whole.reverse = k := by
    simp [wholeNumeral, Numeral.numberText, digitsValue_decimalText]
  have hphase : (wholeNumeral negative k).numberText.phase = .zero ∨
      (wholeNumeral negative k).numberText.phase = .whole := by
    by_cases hzero : decimalText k = ['0'] <;> simp [wholeNumeral, Numeral.numberText, hzero]
  have hnegative : (wholeNumeral negative k).numberText.negative = negative := rfl
  rcases hphase with hphase | hphase <;>
    simp only [NumberText.value, hphase, hvalue, hnegative]

/-! ## How a number comes back -/

namespace Number

/-- What is read where a number was written.  A number that is not finite is written `null`, and one
that is not below zero is read as a natural number. -/
def asRead : Json.Number → Json
  | .natural n => .number (.natural n)
  | .negative n =>
    if n.toInt < 0 then .number (.negative n) else .number (.natural (UInt64.ofNat n.toInt.toNat))
  | .real x => if x.isFinite then .number (.real x) else .null

end Number

/-- **A number is written as a numeral that reads as it**, or as `null` if it is not finite. -/
theorem exists_numeral_writeNumber (number : Json.Number) :
    (∃ (n : Numeral) (value : Json.Number), writeNumber number = n.text ∧ n.Regular ∧
      n.numberText.value = .ok value ∧ number.asRead = .number value) ∨
    (writeNumber number = "null".toList ∧ number.asRead = .null) := by
  cases number with
  | natural k =>
    refine Or.inl ⟨wholeNumeral false k.toNat, .natural k, ?_, regular_wholeNumeral .., ?_, rfl⟩
    · rw [text_wholeNumeral]
      rfl
    · rw [value_wholeNumeral, if_neg (by simp), if_pos (UInt64.toNat_lt_size k),
        UInt64.ofNat_toNat]
  | negative k =>
    have hrange := Int64.le_toInt k
    by_cases hneg : k.toInt < 0
    · refine Or.inl ⟨wholeNumeral true k.toInt.natAbs, .negative k, ?_, regular_wholeNumeral ..,
        ?_, by simp [Number.asRead, hneg]⟩
      · rw [text_wholeNumeral]
        simp [writeNumber, integerText, hneg]
      · have hvalue : Int64.ofInt (-(k.toInt.natAbs : Int)) = k := by
          rw [show -(k.toInt.natAbs : Int) = k.toInt by omega, Int64.ofInt_toInt]
        have hmagnitude : 0 < k.toInt.natAbs ∧ k.toInt.natAbs ≤ Nat.pow 2 63 := by
          rw [Nat.pow_eq]
          omega
        rw [value_wholeNumeral, if_pos rfl, if_pos hmagnitude, hvalue]
    · have hnonneg : 0 ≤ k.toInt := Int.not_lt.1 hneg
      have hsize : k.toInt.natAbs < UInt64.size := by
        have hlt := Int64.toInt_lt k
        have hword : (2 : Int) ^ 63 < (UInt64.size : Int) := by decide
        omega
      refine Or.inl ⟨wholeNumeral false k.toInt.natAbs, .natural (UInt64.ofNat k.toInt.natAbs), ?_,
        regular_wholeNumeral .., ?_, ?_⟩
      · rw [text_wholeNumeral]
        simp [writeNumber, integerText, hneg]
      · rw [value_wholeNumeral, if_neg (by simp), if_pos hsize]
      · have hmagnitude : k.toInt.toNat = k.toInt.natAbs := by omega
        rw [Number.asRead, if_neg hneg, hmagnitude]
  | real x =>
    cases hfinite : x.isFinite with
    | true =>
      obtain ⟨n, htext, hregular, hreal, rfl⟩ := exists_numeral_write hfinite
      exact Or.inl ⟨n, .real n.value, htext, hregular,
        value_numberText_of_isReal hreal hfinite, by simp [Number.asRead, hfinite]⟩
    | false =>
      refine Or.inr ⟨?_, by simp [Number.asRead, hfinite]⟩
      rcases x with _ | negative | ⟨negative, m, e, h⟩
      · rfl
      · cases negative <;> rfl
      · cases hfinite

end Json
end GameJam
