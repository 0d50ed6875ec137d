import GameJam.Proofs.Text.Parts
import GameJam.Proofs.Text.Utf8
import GameJam.Text.UrlForm
import Mathlib.Tactic.SplitIfs

/-!
# Query strings are read back

Every byte of a text is written so that neither `&` nor `=` is among what is written for it.  So the
pairs are cut apart where they were put together, each at the `=` between its halves, and what
remains is one byte after another.

## What is here

* `UrlForm.unescape_escapeByte` — one byte.
* `UrlForm.read_escaped` — one text.
* `UrlForm.readPairs_writePairs` — **a query string is read as the pairs it was written from**.
-/

set_option autoImplicit false

namespace GameJam

namespace Utf8

theorem encode_append (s t : List Char) : encode (s ++ t) = encode s ++ encode t :=
  List.flatMap_append

theorem encode_cons (c : Char) (s : List Char) :
    encode (c :: s) = String.utf8EncodeChar c ++ encode s :=
  rfl

theorem encode_flatMap {α : Type} (f : α → List Char) (list : List α) :
    encode (list.flatMap f) = list.flatMap fun a => encode (f a) := by
  rw [encode, List.flatMap_assoc]
  rfl

end Utf8

namespace UrlForm

open Utf8 (encode encode_append encode_cons encode_flatMap)

/-! ## Bytes -/

/-- The bytes that are written for a byte. -/
def escapeByte (b : UInt8) : List UInt8 :=
  encode (writeByte b.toNat)

theorem encode_write (text : String) :
    encode (write text) = (encode text.toList).flatMap escapeByte :=
  encode_flatMap _ _

/-- The byte of a hexadecimal digit. -/
def hexByte (d : Nat) : UInt8 :=
  UInt8.ofNat (hexDigit d).toNat

/-- What is written for each of the bytes: all of it is ASCII. -/
theorem encode_writeByte : ∀ n < 256, encode (writeByte n)
    = if n = 0x20 then [0x2B] else if isPlain n then [UInt8.ofNat n]
      else [0x25, hexByte (n / 16), hexByte (n % 16)] := by
  decide +kernel

theorem hexPair?_hexByte : ∀ n < 256,
    hexPair? [hexByte (n / 16), hexByte (n % 16)] = some (UInt8.ofNat n) := by
  decide +kernel

/-- Neither separator is written for a byte. -/
theorem not_mem_encode_writeByte : ∀ n < 256,
    0x26 ∉ encode (writeByte n) ∧ 0x3D ∉ encode (writeByte n) := by
  decide +kernel

/-- **A byte is read as it was written**, whatever follows. -/
theorem unescape_escapeByte (b : UInt8) (rest : List UInt8) :
    unescape 0 (escapeByte b ++ rest) = b :: unescape 0 rest := by
  have hlt : b.toNat < 256 := UInt8.toNat_lt b
  have hback : UInt8.ofNat b.toNat = b := UInt8.ofNat_toNat
  rw [escapeByte, encode_writeByte b.toNat hlt]
  split_ifs with hspace hplain
  · have hb : b = 0x20 := UInt8.toNat_inj.1 hspace
    rw [hb]
    rfl
  · -- What stands for itself is neither a plus nor a percent sign.
    have hplus : b ≠ 0x2B := by
      rintro rfl
      exact absurd hplain (by decide)
    have hpercent : b ≠ 0x25 := by
      rintro rfl
      exact absurd hplain (by decide)
    rw [hback, List.singleton_append, unescape]
    simp only [if_neg hplus, if_neg hpercent]
  · have hpair := hexPair?_hexByte b.toNat hlt
    generalize hexByte (b.toNat / 16) = high at hpair
    generalize hexByte (b.toNat % 16) = low at hpair
    have hhead : hexPair? (high :: low :: rest) = some b := hpair.trans (congrArg some hback)
    rw [List.cons_append, List.cons_append, List.cons_append, List.nil_append, unescape]
    simp [hhead, unescape]

/-! ## Texts -/

theorem unescape_flatMap_append (bytes rest : List UInt8) :
    unescape 0 (bytes.flatMap escapeByte ++ rest) = bytes ++ unescape 0 rest := by
  induction bytes with
  | nil => rfl
  | cons b bytes ih =>
    rw [List.flatMap_cons, List.append_assoc, unescape_escapeByte, ih, List.cons_append]

theorem read_escaped (text : String) : read (encode (write text)) = text := by
  have hbytes := unescape_flatMap_append (encode text.toList) []
  rw [List.append_nil, unescape, List.append_nil] at hbytes
  rw [read, encode_write, hbytes, Utf8.decodeLossy_encode, String.ofList_toList]

/-- A line break behind a text stands for itself. -/
theorem read_escaped_newline (text : String) :
    read (encode (write text) ++ [0x0A]) = text ++ "\n" := by
  have hbytes : unescape 0 ((encode text.toList).flatMap escapeByte ++ [0x0A])
      = encode (text.toList ++ ['\n']) := by
    rw [unescape_flatMap_append, encode_append]
    rfl
  rw [read, encode_write, hbytes, Utf8.decodeLossy_encode, String.ofList_append,
    String.ofList_toList]

/-- No separator is written for a text. -/
theorem not_mem_encode_write (text : String) :
    0x26 ∉ encode (write text) ∧ 0x3D ∉ encode (write text) := by
  simp only [encode_write, List.mem_flatMap, not_exists, not_and]
  exact ⟨fun b _ => (not_mem_encode_writeByte b.toNat (UInt8.toNat_lt b)).1,
    fun b _ => (not_mem_encode_writeByte b.toNat (UInt8.toNat_lt b)).2⟩

/-! ## Pairs -/

/-- The bytes of two texts with an `=` between them. -/
def joinHalves (halves : List UInt8 × List UInt8) : List UInt8 :=
  halves.1 ++ 0x3D :: halves.2

/-- **Pairs are cut apart where they were put together**, when no separator is in their halves. -/
theorem readPairs_of_encode_eq {query : List Char} {parts : List (List UInt8 × List UInt8)}
    (hquery : encode query = [0x26].intercalate (parts.map joinHalves))
    (hkeys : ∀ halves ∈ parts, 0x26 ∉ halves.1 ∧ 0x3D ∉ halves.1)
    (hvalues : ∀ halves ∈ parts, 0x26 ∉ halves.2) :
    readPairs query = parts.map fun halves => (read halves.1, read halves.2) := by
  cases hparts : parts with
  | nil => rw [readPairs, hquery, hparts]; rfl
  | cons first rest =>
    -- Every part has its `=`, so that none is left out as empty.
    rw [← hparts]
    have hne : parts.map joinHalves ≠ [] := by simp [hparts]
    have hseparator : ∀ part ∈ parts.map joinHalves, 0x26 ∉ part := by
      intro part hpart
      obtain ⟨halves, hmem, rfl⟩ := List.mem_map.1 hpart
      simp [joinHalves, (hkeys halves hmem).1, hvalues halves hmem]
    have hfull : ∀ part ∈ parts.map joinHalves, (!part.isEmpty) = true := by
      intro part hpart
      obtain ⟨halves, -, rfl⟩ := List.mem_map.1 hpart
      simp [joinHalves]
    rw [readPairs, hquery, fieldsBetween_intercalate hne hseparator, List.filter_eq_self.2 hfull,
      List.map_map]
    refine List.map_congr_left fun halves hmem => ?_
    simp only [Function.comp, joinHalves, cutAt_append_cons (hkeys halves hmem).2]

/-- The bytes that are written for a pair. -/
def writtenHalves (pair : String × String) : List UInt8 × List UInt8 :=
  (encode (write pair.1), encode (write pair.2))

theorem encode_writePair (pair : String × String) :
    encode (writePair pair) = joinHalves (writtenHalves pair) := by
  rw [writePair, encode_append, encode_cons]
  rfl

theorem encode_writePairs (pairs : List (String × String)) :
    encode (writePairs pairs)
      = [0x26].intercalate ((pairs.map writtenHalves).map joinHalves) := by
  rw [writePairs]
  induction pairs with
  | nil => rfl
  | cons pair pairs ih =>
    cases pairs with
    | nil =>
      simp only [List.map_singleton, List.intercalate_singleton]
      exact encode_writePair pair
    | cons next pairs =>
      simp only [List.map_cons, List.intercalate_cons_cons, encode_append] at ih ⊢
      rw [ih, encode_writePair]
      rfl

theorem separators_not_mem_writtenHalves {pairs : List (String × String)}
    {halves : List UInt8 × List UInt8} (h : halves ∈ pairs.map writtenHalves) :
    (0x26 ∉ halves.1 ∧ 0x3D ∉ halves.1) ∧ 0x26 ∉ halves.2 := by
  obtain ⟨pair, -, rfl⟩ := List.mem_map.1 h
  exact ⟨not_mem_encode_write pair.1, (not_mem_encode_write pair.2).1⟩

theorem map_read_writtenHalves (pairs : List (String × String)) :
    (pairs.map writtenHalves).map (fun halves => (read halves.1, read halves.2)) = pairs := by
  rw [List.map_map]
  refine (List.map_congr_left fun pair _ => ?_).trans (List.map_id' pairs)
  exact Prod.ext (read_escaped pair.1) (read_escaped pair.2)

/-- **A query string is read as the pairs it was written from.** -/
theorem readPairs_writePairs (pairs : List (String × String)) :
    readPairs (writePairs pairs) = pairs := by
  rw [readPairs_of_encode_eq (encode_writePairs pairs)
    (fun _ h => (separators_not_mem_writtenHalves h).1)
    (fun _ h => (separators_not_mem_writtenHalves h).2), map_read_writtenHalves]

theorem intercalate_append_singleton_append {α : Type} (separator : List α)
    (fields : List (List α)) (last rest : List α) :
    separator.intercalate (fields ++ [last]) ++ rest
      = separator.intercalate (fields ++ [last ++ rest]) := by
  induction fields with
  | nil => simp
  | cons field fields ih =>
    rw [List.cons_append, List.cons_append, List.intercalate_cons_of_ne_nil (by simp),
      List.intercalate_cons_of_ne_nil (by simp), List.append_assoc, ih]

/-- A line break behind a query string is read as part of the last value. -/
theorem readPairs_writePairs_newline (pairs : List (String × String)) (key value : String) :
    readPairs (writePairs (pairs ++ [(key, value)]) ++ ['\n'])
      = pairs ++ [(key, value ++ "\n")] := by
  have hencode : encode (writePairs (pairs ++ [(key, value)]) ++ ['\n'])
      = [0x26].intercalate ((pairs.map writtenHalves
          ++ [(encode (write key), encode (write value) ++ [0x0A])]).map joinHalves) := by
    have hnewline : encode ['\n'] = [0x0A] := rfl
    rw [encode_append, encode_writePairs, hnewline, List.map_append, List.map_append,
      List.map_append]
    refine (intercalate_append_singleton_append _ _ _ _).trans ?_
    simp [writtenHalves, joinHalves]
  have hvalue : 0x26 ∉ encode (write value) := (not_mem_encode_write value).1
  rw [readPairs_of_encode_eq hencode, List.map_append, map_read_writtenHalves]
  · simp [read_escaped, read_escaped_newline]
  · intro halves h
    rcases List.mem_append.1 h with hmem | hmem
    · exact (separators_not_mem_writtenHalves hmem).1
    · rw [List.mem_singleton.1 hmem]
      exact not_mem_encode_write key
  · intro halves h
    rcases List.mem_append.1 h with hmem | hmem
    · exact (separators_not_mem_writtenHalves hmem).2
    · rw [List.mem_singleton.1 hmem]
      simpa using hvalue

/-! ## Question marks -/

/-- A question mark is written for no byte. -/
theorem question_not_mem_writeByte : ∀ n < 256, '?' ∉ writeByte n := by
  decide +kernel

theorem question_not_mem_write (text : String) : '?' ∉ write text := by
  simp only [write, List.mem_flatMap, not_exists, not_and]
  exact fun b _ => question_not_mem_writeByte b.toNat (UInt8.toNat_lt b)

/-- So none is in a query string. -/
theorem question_not_mem_writePairs (pairs : List (String × String)) :
    '?' ∉ writePairs pairs := by
  have hpair (pair : String × String) : '?' ∉ writePair pair := by
    simp [writePair, question_not_mem_write]
  rw [writePairs]
  induction pairs with
  | nil => simp
  | cons pair pairs ih =>
    cases pairs with
    | nil => simpa using hpair pair
    | cons next pairs =>
      simp only [List.map_cons, List.intercalate_cons_cons, List.mem_append] at ih ⊢
      simp [hpair, ih]

end UrlForm
end GameJam
