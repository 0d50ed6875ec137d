import GameJam.Proofs.Json.Spelling
import Mathlib.Data.List.Basic

/-!
# Numbers and strings part way through

What has been read of a number or of a string is the beginning of one, and how far it has come is
its phase.  This file says for each phase which texts these are, and that one more character that is
taken leads to a text of the phase behind it.  Where a number may end, and where a string is closed,
the text is spelled whole.

## What is here

* `NumberText.Spelled` — the beginnings of numbers, with `spelled_start` and `spelled_push`.
* `NumberText.exists_of_spelled` — **a number that may end is spelled**.
* `StringText.Spelled` — the beginnings of strings, with `spelled_push`.
* `StringText.exists_of_push_closed` — **a string that is closed is spelled**.
-/

set_option autoImplicit false

namespace GameJam
namespace Json

/-! ## Numbers -/

/-- A numeral of JSON without an exponent. -/
structure Bare (n : Numeral) : Prop where
  regular : n.Regular
  exponent : n.exponent = 0

namespace NumberText

/-- The beginnings of a number, by how far it has been read. -/
def Spelled : NumberPhase → List Char → Prop
  | .sign, text => text = ['-']
  | .zero, text => ∃ m, Bare m ∧ m.fraction = [] ∧ text = m.text
  | .whole, text => ∃ m, Bare m ∧ m.fraction = [] ∧ m.whole ≠ ['0'] ∧ text = m.text
  | .point, text => ∃ m, Bare m ∧ m.fraction = [] ∧ text = m.text ++ ['.']
  | .fraction, text => ∃ m, Bare m ∧ m.fraction ≠ [] ∧ text = m.text
  | .exponentMark, text => ∃ m mark, Bare m ∧ (mark = 'e' ∨ mark = 'E') ∧ text = m.text ++ [mark]
  | .exponentSign, text => ∃ m mark sign, Bare m ∧ (mark = 'e' ∨ mark = 'E') ∧
      text = m.text ++ mark :: ExponentSign.text sign
  | .exponent, text => ∃ n : NumberSpelling, n.exponent.isSome ∧ text = n.text

/-- **A number that may end is spelled.** -/
theorem exists_of_spelled {n : NumberText} (hcomplete : n.isComplete = true) {text : List Char}
    (h : Spelled n.phase text) : ∃ n : NumberSpelling, text = n.text := by
  have hbare : ∀ {m : Numeral}, Bare m → text = m.text → ∃ n : NumberSpelling, text = n.text := by
    intro m hm htext
    refine ⟨⟨m, hm.regular, hm.exponent, none⟩, ?_⟩
    rw [NumberSpelling.text, NumberSpelling.exponentText, List.append_nil, htext]
  unfold isComplete at hcomplete
  split at hcomplete
  case h_5 => cases hcomplete
  all_goals
    rename_i hphase
    rw [hphase] at h
  · obtain ⟨m, hm, -, htext⟩ := h
    exact hbare hm htext
  · obtain ⟨m, hm, -, -, htext⟩ := h
    exact hbare hm htext
  · obtain ⟨m, hm, -, htext⟩ := h
    exact hbare hm htext
  · obtain ⟨n, -, htext⟩ := h
    exact ⟨n, htext⟩

theorem text_bare {m : Numeral} (h : m.exponent = 0) :
    m.text = (if m.negative then ['-'] else []) ++ m.whole
      ++ (if m.fraction = [] then [] else '.' :: m.fraction) := by
  rw [Numeral.text, if_pos h, List.append_nil]

/-- The sign and one digit. -/
theorem spelled_first (negative : Bool) {c : Char} (hc : c.isDigit = true) :
    Spelled (if c = '0' then .zero else .whole) ((if negative then ['-'] else []) ++ [c]) := by
  have hbare : Bare ⟨negative, [c], [], 0⟩ := by
    refine ⟨⟨?_, by simpa using hc, by simp⟩, rfl⟩
    by_cases hzero : c = '0'
    · exact Or.inl (by rw [hzero])
    · exact Or.inr ⟨c, [], rfl, hzero⟩
  have htext : (if negative then ['-'] else []) ++ [c] = (Numeral.mk negative [c] [] 0).text := by
    simp [text_bare]
  by_cases hzero : c = '0'
  · rw [if_pos hzero]
    exact ⟨_, hbare, rfl, htext⟩
  · rw [if_neg hzero]
    exact ⟨_, hbare, rfl, by simpa using hzero, htext⟩

theorem spelled_start {c : Char} {n : NumberText} (h : start? c = some n) :
    Spelled n.phase [c] := by
  have hfirst := @spelled_first false c
  unfold start? at h
  split_ifs at h with hminus hzero hdigit
  · obtain rfl := Option.some.inj h
    rw [hminus]
    rfl
  · obtain rfl := Option.some.inj h
    simpa [hzero] using hfirst (by rw [hzero]; rfl)
  · obtain rfl := Option.some.inj h
    simpa [hzero] using hfirst hdigit

/-- Behind the digits before the point. -/
theorem spelled_afterWhole {n n' : NumberText} {m : Numeral} (hm : Bare m)
    (hfraction : m.fraction = []) {c : Char} (h : n.afterWhole c = .more n') :
    Spelled n'.phase (m.text ++ [c]) := by
  unfold afterWhole at h
  split_ifs at h with hpoint hmark
  · obtain rfl := NumberStep.more.inj h
    exact ⟨m, hm, hfraction, by rw [hpoint]⟩
  · obtain rfl := NumberStep.more.inj h
    exact ⟨m, c, hm, hmark, rfl⟩

/-- A further digit before the point, which cannot follow a zero. -/
theorem spelled_wholeDigit {m : Numeral} (hm : Bare m) (hfraction : m.fraction = [])
    (hzero : m.whole ≠ ['0']) {c : Char} (hc : c.isDigit = true) :
    Spelled .whole (m.text ++ [c]) := by
  obtain ⟨d, rest, hwhole, hd⟩ := hm.regular.leading.resolve_left hzero
  refine ⟨{ m with whole := m.whole ++ [c] }, ⟨⟨Or.inr ⟨d, rest ++ [c], ?_, hd⟩, ?_, ?_⟩,
    hm.exponent⟩, hfraction, ?_, ?_⟩
  · simp [hwhole]
  · exact List.forall_mem_append.2 ⟨hm.regular.whole, by simpa using hc⟩
  · exact hm.regular.fraction
  · simp [hwhole]
  · simp [text_bare, hm.exponent, hfraction]

/-- A digit behind the point. -/
theorem spelled_fractionDigit {m : Numeral} (hm : Bare m) {c : Char} (hc : c.isDigit = true) :
    Spelled .fraction (m.text ++ if m.fraction = [] then ['.', c] else [c]) := by
  refine ⟨{ m with fraction := m.fraction ++ [c] }, ⟨⟨hm.regular.leading, hm.regular.whole, ?_⟩,
    hm.exponent⟩, by simp, ?_⟩
  · exact List.forall_mem_append.2 ⟨hm.regular.fraction, by simpa using hc⟩
  · by_cases hfraction : m.fraction = [] <;> simp [text_bare, hm.exponent, hfraction]

/-- The first digit of an exponent. -/
theorem spelled_exponentDigit {m : Numeral} (hm : Bare m) {mark : Char}
    (hmark : mark = 'e' ∨ mark = 'E') (sign : ExponentSign) {c : Char} (hc : c.isDigit = true) :
    Spelled .exponent (m.text ++ mark :: (sign.text ++ [c])) :=
  ⟨⟨m, hm.regular, hm.exponent, some ⟨mark, hmark, sign, [c], by simp, by simpa using hc⟩⟩, rfl,
    rfl⟩

/-- One more character of a number. -/
theorem spelled_push {n n' : NumberText} {c : Char} {text : List Char}
    (h : Spelled n.phase text) (hpush : n.push c = .more n') :
    Spelled n'.phase (text ++ [c]) := by
  unfold push at hpush
  cases hphase : n.phase with
  | sign =>
    simp only [hphase] at h hpush
    obtain rfl : text = ['-'] := h
    have hfirst := @spelled_first true c
    split_ifs at hpush with hzero hdigit
    · obtain rfl := NumberStep.more.inj hpush
      simpa [hzero] using hfirst (by rw [hzero]; rfl)
    · obtain rfl := NumberStep.more.inj hpush
      simpa [hzero] using hfirst hdigit
  | zero =>
    simp only [hphase] at h hpush
    obtain ⟨m, hm, hfraction, rfl⟩ := h
    split_ifs at hpush with hdigit
    exact spelled_afterWhole hm hfraction hpush
  | whole =>
    simp only [hphase] at h hpush
    obtain ⟨m, hm, hfraction, hzero, rfl⟩ := h
    split_ifs at hpush with hdigit
    · obtain rfl := NumberStep.more.inj hpush
      simpa only [hphase] using spelled_wholeDigit hm hfraction hzero hdigit
    · exact spelled_afterWhole hm hfraction hpush
  | point =>
    simp only [hphase] at h hpush
    obtain ⟨m, hm, hfraction, rfl⟩ := h
    split_ifs at hpush with hdigit
    obtain rfl := NumberStep.more.inj hpush
    simpa [hfraction] using spelled_fractionDigit hm hdigit
  | fraction =>
    simp only [hphase] at h hpush
    obtain ⟨m, hm, hfraction, rfl⟩ := h
    split_ifs at hpush with hdigit hmark
    · obtain rfl := NumberStep.more.inj hpush
      simpa [hphase, hfraction] using spelled_fractionDigit hm hdigit
    · obtain rfl := NumberStep.more.inj hpush
      exact ⟨m, c, hm, hmark, rfl⟩
  | exponentMark =>
    simp only [hphase] at h hpush
    obtain ⟨m, mark, hm, hmark, rfl⟩ := h
    split_ifs at hpush with hplus hminus hdigit
    · obtain rfl := NumberStep.more.inj hpush
      exact ⟨m, mark, .plus, hm, hmark, by simp [ExponentSign.text, hplus]⟩
    · obtain rfl := NumberStep.more.inj hpush
      exact ⟨m, mark, .minus, hm, hmark, by simp [ExponentSign.text, hminus]⟩
    · obtain rfl := NumberStep.more.inj hpush
      simpa [ExponentSign.text] using spelled_exponentDigit hm hmark .absent hdigit
  | exponentSign =>
    simp only [hphase] at h hpush
    obtain ⟨m, mark, sign, hm, hmark, rfl⟩ := h
    split_ifs at hpush with hdigit
    obtain rfl := NumberStep.more.inj hpush
    simpa using spelled_exponentDigit hm hmark sign hdigit
  | exponent =>
    simp only [hphase] at h hpush
    obtain ⟨⟨m, regular, bare, exponent⟩, hexponent, rfl⟩ := h
    obtain ⟨⟨mark, isMark, sign, digits⟩, rfl⟩ := Option.isSome_iff_exists.1 hexponent
    split_ifs at hpush with hdigit
    obtain rfl := NumberStep.more.inj hpush
    refine ⟨⟨m, regular, bare, some ⟨mark, isMark, sign, digits.1 ++ [c], by simp, ?_⟩⟩, rfl, ?_⟩
    · exact List.forall_mem_append.2 ⟨digits.2.2, by simpa using hdigit⟩
    · simp [NumberSpelling.text, NumberSpelling.exponentText]

/-- Only a number that may end is ended by what follows it. -/
theorem isComplete_of_push_ended {n : NumberText} {c : Char} (h : n.push c = .ended) :
    n.isComplete = true := by
  unfold push at h
  unfold isComplete
  cases hphase : n.phase with
  | sign | point | exponentMark | exponentSign =>
    simp only [hphase] at h
    split_ifs at h
  | _ => rfl

end NumberText

/-! ## Strings -/

namespace StringText

/-- The beginnings of a string behind its opening quote, by how far it has been read.  An escape
that is no code unit may still be read to its end, but nothing is kept of it. -/
def Spelled : StringPhase → List Char → Prop
  | .plain, text => ∃ pieces : List Piece, text = pieces.flatMap Piece.text
  | .escape, text => ∃ pieces : List Piece, text = pieces.flatMap Piece.text ++ ['\\']
  | .hex bytes _ good, text => bytes < 4 ∧ (good = true → ∃ (pieces : List Piece)
      (digits : List HexDigit), digits.length = bytes ∧
        text = pieces.flatMap Piece.text ++ '\\' :: 'u' :: digits.map Subtype.val)

theorem spelled_piece {pieces : List Piece} (piece : Piece) :
    Spelled .plain (pieces.flatMap Piece.text ++ piece.text) :=
  ⟨pieces ++ [piece], by simp⟩

/-- One more character of a string. -/
theorem spelled_push {s s' : StringText} {c : Char} {text : List Char}
    (h : Spelled s.phase text) (hpush : s.push c = .more s') :
    Spelled s'.phase (text ++ [c]) := by
  unfold push at hpush
  cases hphase : s.phase with
  | plain =>
    simp only [hphase] at h hpush
    obtain ⟨pieces, rfl⟩ := h
    split_ifs at hpush with hquote hslash hcontrol
    · obtain rfl := StringStep.more.inj hpush
      exact ⟨pieces, by rw [hslash]⟩
    · obtain rfl := StringStep.more.inj hpush
      exact spelled_piece (.plain c ⟨hquote, hslash, Nat.not_lt.1 hcontrol⟩)
  | escape =>
    simp only [hphase] at h hpush
    obtain ⟨pieces, rfl⟩ := h
    rw [List.append_assoc]
    have hletter : ∀ c' : Char, (c, c') ∈ letterEscapes → .more (s.add c') = StringStep.more s' →
        Spelled s'.phase (pieces.flatMap Piece.text ++ ['\\', c]) := by
      intro c' hmem hadd
      obtain rfl := StringStep.more.inj hadd
      exact spelled_piece (.short c c' hmem)
    split at hpush
    case h_9 =>
      obtain rfl := StringStep.more.inj hpush
      exact ⟨by decide, fun _ => ⟨pieces, [], rfl, rfl⟩⟩
    case h_10 => cases hpush
    all_goals exact hletter _ (by decide) hpush
  | hex bytes value good =>
    simp only [hphase] at h hpush
    obtain ⟨hbytes, h⟩ := h
    cases hdigit : hexValue? c with
    | none =>
      -- No digit: nothing but a fault comes of it.
      simp only [hdigit] at hpush
      split_ifs at hpush with hmore hgood
      · obtain rfl := StringStep.more.inj hpush
        exact ⟨hmore, by simp⟩
      · exact hgood.elim
    | some digit =>
      have hsome : (hexValue? c).isSome = true := by rw [hdigit]; rfl
      simp only [hdigit, utf8Size_of_hexValue? hsome] at hpush
      split_ifs at hpush with hmore hgood
      · obtain rfl := StringStep.more.inj hpush
        refine ⟨hmore, fun hgood => ?_⟩
        obtain ⟨pieces, digits, hlength, rfl⟩ := h hgood
        exact ⟨pieces, digits ++ [⟨c, hsome⟩], by simp [hlength], by simp⟩
      · obtain rfl := StringStep.more.inj hpush
        obtain ⟨pieces, digits, hlength, rfl⟩ := h hgood
        have hthree : digits.length = 3 := by omega
        obtain ⟨x, y, z, rfl⟩ := List.length_eq_three.1 hthree
        have hunit := @spelled_piece pieces (.unit x y z ⟨c, hsome⟩)
        simpa [Piece.text] using hunit

/-- **A string that is closed is spelled.** -/
theorem exists_of_push_closed {s s' : StringText} {c : Char} {text : List Char}
    (h : Spelled s.phase text) (hpush : s.push c = .closed s') :
    c = '"' ∧ ∃ pieces : List Piece, text = pieces.flatMap Piece.text := by
  unfold push at hpush
  cases hphase : s.phase with
  | plain =>
    simp only [hphase] at h hpush
    split_ifs at hpush with hquote
    exact ⟨hquote, h⟩
  | escape =>
    simp only [hphase] at hpush
    split at hpush <;> cases hpush
  | hex bytes value good =>
    simp only [hphase] at hpush
    split_ifs at hpush

end StringText

end Json
end GameJam
