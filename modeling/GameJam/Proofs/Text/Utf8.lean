import GameJam.Text.Utf8
import Mathlib.Tactic.SplitIfs

/-!
# Bytes of a text are read as the text

The reader of bytes knows from a first byte how many follow and which values the second may have.
For each length of a character, its first byte opens a character of that length, the bounds let its
second byte pass, and the bits that are gathered are those of the character.

## What is here

* `Utf8.lead_two`, `Utf8.lead_three`, `Utf8.lead_four` — the first bytes of the longer characters.
* `Utf8.scan_utf8EncodeChar` — one character.
* `Utf8.decodeLossy_encode` — **a text is read from its bytes**.
* `Utf8.encode_lt_encode_iff` — **texts are in the order of their bytes**.
-/

set_option autoImplicit false

namespace GameJam
namespace Utf8

theorem toNat_ofNat_of_lt {n : Nat} (h : n < 256) : (UInt8.ofNat n).toNat = n := by
  rw [UInt8.toNat_ofNat', Nat.mod_eq_of_lt h]

/-! ## Byte by byte -/

section Bytes

variable {low high value n : Nat} (rest : List UInt8)

/-- A byte that opens a character. -/
theorem scan_start {pending : Pending} (hn : n < 256) (h : lead n = .start pending) :
    scan none (UInt8.ofNat n :: rest) = scan (some pending) rest := by
  simp [scan, step, begin, toNat_ofNat_of_lt hn, h]

/-- A byte that continues a character which is not complete with it. -/
theorem scan_continue {owed : Nat} (hn : n < 64) (howed : 1 < owed) (hlow : low ≤ n + 0x80)
    (hhigh : n + 0x80 ≤ high) :
    scan (some ⟨owed, low, high, value⟩) (UInt8.ofNat (n + 0x80) :: rest)
      = scan (some ⟨owed - 1, 0x80, 0xBF, 64 * value + n⟩) rest := by
  have hbyte : (UInt8.ofNat (n + 0x80)).toNat = n + 0x80 := toNat_ofNat_of_lt (by omega)
  simp only [scan, step, hbyte, hlow, hhigh, and_self, if_true, Nat.not_le.2 howed, if_false,
    List.nil_append, Nat.add_sub_cancel]

/-- The last byte of a character. -/
theorem scan_last (hn : n < 64) (hlow : low ≤ n + 0x80) (hhigh : n + 0x80 ≤ high) :
    scan (some ⟨1, low, high, value⟩) (UInt8.ofNat (n + 0x80) :: rest)
      = some (Char.ofNat (64 * value + n)) :: scan none rest := by
  have hbyte : (UInt8.ofNat (n + 0x80)).toNat = n + 0x80 := toNat_ofNat_of_lt (by omega)
  simp only [scan, step, hbyte, hlow, hhigh, and_self, if_true, Nat.le_refl, Nat.add_sub_cancel,
    List.singleton_append]

end Bytes

/-! ## First bytes -/

theorem lead_two : ∀ a < 32, 2 ≤ a → lead (a + 0xC0) = .start ⟨1, 0x80, 0xBF, a⟩ := by
  decide

theorem lead_three : ∀ a < 16, lead (a + 0xE0)
    = .start ⟨2, if a = 0 then 0xA0 else 0x80, if a = 13 then 0x9F else 0xBF, a⟩ := by
  decide

theorem lead_four : ∀ a < 5, lead (a + 0xF0)
    = .start ⟨3, if a = 0 then 0x90 else 0x80, if a = 4 then 0x8F else 0xBF, a⟩ := by
  decide

/-! ## Characters -/

section Chars

variable {a b c d : Nat} (rest : List UInt8)

theorem scan_two (ha : 2 ≤ a) (ha' : a < 32) (hb : b < 64) :
    scan none (UInt8.ofNat (a + 0xC0) :: UInt8.ofNat (b + 0x80) :: rest)
      = some (Char.ofNat (64 * a + b)) :: scan none rest := by
  rw [scan_start _ (by omega) (lead_two a ha' ha), scan_last _ hb (by omega) (by omega)]

/-- Three bytes, when two would not do and the character is no surrogate. -/
theorem scan_three (ha : a < 16) (hb : b < 64) (hc : c < 64) (hlong : a = 0 → 32 ≤ b)
    (hsurrogate : a = 13 → b < 32) :
    scan none (UInt8.ofNat (a + 0xE0) :: UInt8.ofNat (b + 0x80) :: UInt8.ofNat (c + 0x80) :: rest)
      = some (Char.ofNat (64 * (64 * a + b) + c)) :: scan none rest := by
  rw [scan_start _ (by omega) (lead_three a ha),
    scan_continue _ hb (by decide) (by split <;> omega) (by split <;> omega),
    scan_last _ hc (by omega) (by omega)]

/-- Four bytes, when three would not do and the character is not beyond U+10FFFF. -/
theorem scan_four (ha : a < 5) (hb : b < 64) (hc : c < 64) (hd : d < 64) (hlong : a = 0 → 16 ≤ b)
    (hmax : a = 4 → b < 16) :
    scan none (UInt8.ofNat (a + 0xF0) :: UInt8.ofNat (b + 0x80) :: UInt8.ofNat (c + 0x80)
        :: UInt8.ofNat (d + 0x80) :: rest)
      = some (Char.ofNat (64 * (64 * (64 * a + b) + c) + d)) :: scan none rest := by
  rw [scan_start _ (by omega) (lead_four a ha),
    scan_continue _ hb (by decide) (by split <;> omega) (by split <;> omega),
    scan_continue _ hc (by decide) (by omega) (by omega), scan_last _ hd (by omega) (by omega)]

end Chars

/-- The numbers of characters: no surrogates, nothing beyond U+10FFFF. -/
theorem toNat_valid (c : Char) : c.toNat < 0xD800 ∨ 0xDFFF < c.toNat ∧ c.toNat < 0x110000 :=
  c.valid

/-- **One character is read from its bytes.** -/
theorem scan_utf8EncodeChar (c : Char) (rest : List UInt8) :
    scan none (String.utf8EncodeChar c ++ rest) = some c :: scan none rest := by
  have hvalid := toNat_valid c
  have hback := Char.ofNat_toNat c
  simp only [String.utf8EncodeChar, Char.toNat_val]
  generalize c.toNat = v at hvalid hback
  split_ifs with hone htwo hthree
  · have hbyte : (UInt8.ofNat v).toNat = v := toNat_ofNat_of_lt (by omega)
    simp [scan, step, begin, hbyte, lead, hone, hback]
  · have hvalue : 64 * (v / 64) + v % 64 = v := Nat.div_add_mod v 64
    rw [Nat.mod_eq_of_lt (by omega : v / 64 < 0x20)]
    refine (scan_two rest (by omega) (by omega) (Nat.mod_lt v (by decide))).trans ?_
    rw [hvalue, hback]
  · have hvalue : 64 * (64 * (v / 4096) + v / 64 % 64) + v % 64 = v := by omega
    rw [Nat.mod_eq_of_lt (by omega : v / 4096 < 0x10)]
    refine (scan_three rest (by omega) (Nat.mod_lt _ (by decide)) (Nat.mod_lt v (by decide))
      (by omega) (by omega)).trans ?_
    rw [hvalue, hback]
  · have hvalue : 64 * (64 * (64 * (v / 262144) + v / 4096 % 64) + v / 64 % 64) + v % 64 = v := by
      omega
    rw [Nat.mod_eq_of_lt (by omega : v / 262144 < 0x08)]
    refine (scan_four rest (by omega) (Nat.mod_lt _ (by decide)) (Nat.mod_lt _ (by decide))
      (Nat.mod_lt v (by decide)) (by omega) (by omega)).trans ?_
    rw [hvalue, hback]

/-- **A text is read from its bytes.** -/
theorem scan_encode (text : List Char) : scan none (encode text) = text.map some := by
  induction text with
  | nil => rfl
  | cons c text ih =>
    have hencode : encode (c :: text) = String.utf8EncodeChar c ++ encode text := rfl
    rw [hencode, scan_utf8EncodeChar, ih, List.map_cons]

theorem decodeLossy_encode (text : List Char) : decodeLossy (encode text) = text := by
  rw [decodeLossy, scan_encode, List.map_map]
  exact List.map_id' text

/-! ## The order of texts

A byte that opens a longer character is larger, and characters of one length are written in
base 64. -/

theorem ofNat_lt_ofNat {m n : Nat} (hm : m < 256) (hn : n < 256) :
    UInt8.ofNat m < UInt8.ofNat n ↔ m < n := by
  rw [UInt8.lt_iff_toNat_lt, toNat_ofNat_of_lt hm, toNat_ofNat_of_lt hn]

theorem ofNat_inj {m n : Nat} (hm : m < 256) (hn : n < 256) :
    UInt8.ofNat m = UInt8.ofNat n ↔ m = n := by
  rw [← UInt8.toNat_inj, toNat_ofNat_of_lt hm, toNat_ofNat_of_lt hn]

/-- The bytes of a smaller character are smaller, whatever follows them. -/
theorem utf8EncodeChar_append_lt {c d : Char} (h : c < d) (rest rest' : List UInt8) :
    String.utf8EncodeChar c ++ rest < String.utf8EncodeChar d ++ rest' := by
  have hc := toNat_valid c
  have hd := toNat_valid d
  have hlt : c.toNat < d.toNat := h
  simp only [String.utf8EncodeChar, Char.toNat_val]
  generalize c.toNat = m at hlt hc
  generalize d.toNat = n at hlt hd
  split_ifs <;>
    simp (disch := omega) only [List.cons_append, List.nil_append, List.cons_lt_cons_iff,
      ofNat_lt_ofNat, ofNat_inj] <;>
    try omega
  -- Of the pairs of lengths, four bytes against four are left.
  have hthird : ∀ k : Nat, k / 4096 = k / 64 / 64 := fun k => (Nat.div_div_eq_div_mul k 64 64).symm
  have hfourth : ∀ k : Nat, k / 262144 = k / 64 / 64 / 64 := fun k => by
    rw [Nat.div_div_eq_div_mul, Nat.div_div_eq_div_mul]
  rw [hthird, hthird, hfourth, hfourth]
  omega

theorem encode_lt_encode {s t : List Char} (h : s < t) : encode s < encode t := by
  induction h with
  | @nil c rest =>
    cases hc : String.utf8EncodeChar c with
    | nil => exact absurd hc String.utf8EncodeChar_ne_nil
    | cons b bytes => rw [encode, encode, List.flatMap_cons, hc]; exact List.nil_lt_cons ..
  | rel h => exact utf8EncodeChar_append_lt h _ _
  | cons h ih => exact List.append_left_lt ih

/-- **Texts are in the order of their bytes.** -/
theorem encode_lt_encode_iff {s t : List Char} : encode s < encode t ↔ s < t := by
  refine ⟨fun h => ?_, encode_lt_encode⟩
  rcases Std.lt_trichotomy s t with hst | rfl | hts
  · exact hst
  · exact absurd h (List.lt_irrefl _)
  · exact absurd h (List.lt_asymm (encode_lt_encode hts))

end Utf8
end GameJam
