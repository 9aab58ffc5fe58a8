import Yardstick.Csv.Reader
import Yardstick.Csv.Printer

/-!
# Texts as the words of a file

A file is read byte by byte and written as text: `wordOf` turns a text into the word that is read where
it was written. ASCII stands for itself, and no other character has an ASCII byte. So commas, quotes and
line ends are found where the text has them, and a word that was decoded is the word of its text
(`wordOf_of_decodeWord`).
-/

namespace Yardstick.Csv

open Yardstick.Text

/-! ## Bytes -/

theorem toList_loop_eq (bytes : ByteArray) (i : Nat) (r : List UInt8) :
    ByteArray.toList.loop bytes i r = r.reverse ++ bytes.data.toList.drop i := by
  fun_induction ByteArray.toList.loop bytes i r with
  | case1 i r h ih =>
    have hi : i < bytes.data.toList.length := by simpa using h
    rw [ih, List.drop_eq_getElem_cons hi]
    simp [ByteArray.get!, h]
  | case2 i r h =>
    rw [List.drop_eq_nil_of_le (by simpa using Nat.le_of_not_lt h)]
    simp

theorem toList_eq_data_toList (bytes : ByteArray) : bytes.toList = bytes.data.toList := by
  unfold ByteArray.toList
  rw [toList_loop_eq]
  rfl

/-- The bytes of a character, as characters. -/
def charWord (c : Char) : Word := (String.utf8EncodeChar c).map fun b => Char.ofNat b.toNat

/-- A text as it is read byte by byte. -/
def wordOf (s : List Char) : Word := s.flatMap charWord

@[simp] theorem wordOf_nil : wordOf [] = [] := rfl

@[simp] theorem wordOf_cons (c : Char) (s : List Char) : wordOf (c :: s) = charWord c ++ wordOf s := rfl

@[simp] theorem wordOf_append (s t : List Char) : wordOf (s ++ t) = wordOf s ++ wordOf t :=
  List.flatMap_append

theorem wordOf_flatMap {α : Type} (f : α → List Char) (l : List α) :
    wordOf (l.flatMap f) = l.flatMap fun a => wordOf (f a) := List.flatMap_assoc

variable {c : Char} {s : List Char} {w : Word}

theorem charWord_of_ascii (h : c.toNat < 128) : charWord c = [c] := by
  have hv : c.val.toNat ≤ 0x7f := Nat.le_of_lt_succ h
  have hbyte : (UInt8.ofNat c.val.toNat).toNat = c.toNat := Nat.mod_eq_of_lt (Nat.lt_trans h (by decide))
  unfold charWord String.utf8EncodeChar
  rw [if_pos hv, List.map_singleton, hbyte, Char.ofNat_toNat]

theorem toNat_ofNat {n : Nat} (h : n < 256) : (Char.ofNat n).toNat = n := by
  unfold Char.ofNat
  rw [dif_pos (Or.inl (Nat.lt_trans h (by decide)))]
  rfl

theorem toNat_byte {n : Nat} (h : n < 256) : (Char.ofNat (UInt8.ofNat n).toNat).toNat = n := by
  rw [UInt8.toNat_ofNat', Nat.mod_eq_of_lt h, toNat_ofNat h]

/-- Only ASCII characters have ASCII bytes. -/
theorem le_of_mem_charWord (h : 128 ≤ c.toNat) : ∀ d ∈ charWord c, 128 ≤ d.toNat := by
  have hv : ¬ c.val.toNat ≤ 0x7f := Nat.not_le_of_lt h
  unfold charWord String.utf8EncodeChar
  rw [if_neg hv]
  split
  · simp only [List.map_cons, List.map_nil, List.forall_mem_cons]
    rw [toNat_byte (by omega), toNat_byte (by omega)]
    exact ⟨by omega, by omega, nofun⟩
  · split
    · simp only [List.map_cons, List.map_nil, List.forall_mem_cons]
      rw [toNat_byte (by omega), toNat_byte (by omega), toNat_byte (by omega)]
      exact ⟨by omega, by omega, by omega, nofun⟩
    · simp only [List.map_cons, List.map_nil, List.forall_mem_cons]
      rw [toNat_byte (by omega), toNat_byte (by omega), toNat_byte (by omega), toNat_byte (by omega)]
      exact ⟨by omega, by omega, by omega, by omega, nofun⟩

theorem charWord_ne_nil : charWord c ≠ [] := by
  intro h
  have := congrArg List.length h
  simp [charWord] at this
  exact absurd this (Nat.pos_iff_ne_zero.1 c.utf8Size_pos)

/-- An ASCII character is found in the word where it is in the text. -/
theorem mem_wordOf {d : Char} (hd : d.toNat < 128) : d ∈ wordOf s ↔ d ∈ s := by
  unfold wordOf
  rw [List.mem_flatMap]
  constructor
  · rintro ⟨c, hc, hdc⟩
    by_cases h : c.toNat < 128
    · rw [charWord_of_ascii h, List.mem_singleton] at hdc
      exact hdc ▸ hc
    · exact absurd (le_of_mem_charWord (Nat.le_of_not_lt h) d hdc) (Nat.not_le_of_lt hd)
  · exact fun h => ⟨d, h, by rw [charWord_of_ascii hd, List.mem_singleton]⟩

theorem wordOf_eq_nil : wordOf s = [] ↔ s = [] := by
  cases s with
  | nil => simp
  | cons c s => simp [charWord_ne_nil]

theorem wordOf_of_ascii (h : ∀ c ∈ s, c.toNat < 128) : wordOf s = s := by
  induction s with
  | nil => rfl
  | cons c s ih =>
    rw [List.forall_mem_cons] at h
    rw [wordOf_cons, charWord_of_ascii h.1, ih h.2]
    rfl

/-! ## Encoding and decoding -/

/-- A file that is written as a text is read as its word. -/
theorem map_byteList_encode (text : String) :
    (Utf8.byteList (Utf8.encode text)).map Char.ofNat = wordOf text.toList := by
  have hbytes : (Utf8.encode text).toList = text.toList.flatMap String.utf8EncodeChar := by
    rw [toList_eq_data_toList]
    show text.toByteArray.data.toList = _
    rw [← String.utf8Encode_toList, List.utf8Encode, List.toList_data_toByteArray]
  unfold Utf8.byteList wordOf charWord
  rw [hbytes, List.map_map, List.map_flatMap]
  rfl

theorem wordOf_of_decodeWord {text : String} (hw : ∀ c ∈ w, c.toNat < 256) (h : decodeWord w = .ok text) :
    wordOf text.toList = w := by
  unfold decodeWord Utf8.decode at h
  split at h
  · next s hs =>
    obtain rfl := Except.ok.inj h
    have hbytes : Utf8.encode s = ⟨(w.map fun c => c.toNat.toUInt8).toArray⟩ := by
      unfold String.fromUTF8? at hs
      split at hs
      · obtain rfl := Option.some.inj hs
        rfl
      · cases hs
    rw [← map_byteList_encode, hbytes]
    unfold Utf8.byteList
    rw [toList_eq_data_toList, List.map_map, List.map_map]
    refine (List.map_congr_left fun c hc => ?_).trans (List.map_id w)
    show Char.ofNat (UInt8.ofNat c.toNat).toNat = c
    rw [UInt8.toNat_ofNat', Nat.mod_eq_of_lt (hw c hc), Char.ofNat_toNat]
  · cases h

theorem decodeWord_wordOf (text : String) : decodeWord (wordOf text.toList) = .ok text := by
  have hbytes : (⟨((wordOf text.toList).map fun c => c.toNat.toUInt8).toArray⟩ : ByteArray) =
      Utf8.encode text := by
    rw [← map_byteList_encode]
    unfold Utf8.byteList
    rw [toList_eq_data_toList, List.map_map, List.map_map]
    refine ByteArray.ext (Array.toList_inj.1 ((List.map_congr_left fun b _ => ?_).trans (List.map_id _)))
    show UInt8.ofNat (Char.ofNat b.toNat).toNat = b
    rw [toNat_ofNat b.toNat_lt, UInt8.ofNat_toNat]
  unfold decodeWord
  rw [hbytes, Utf8.decode_encode]

/-- Different texts are read as different words. -/
theorem wordOf_injective {s t : String} (h : wordOf s.toList = wordOf t.toList) : s = t :=
  Except.ok.inj ((decodeWord_wordOf s).symm.trans (h ▸ decodeWord_wordOf t))

end Yardstick.Csv
