/-
Pieces of a text among its bytes.

A position in the UTF-8 form of a text need not be one between two characters. For a search this
makes no difference. The first byte of a character is never a later byte of one, so where a piece
of text that is not empty is found among the bytes, there a character begins; and of no two
characters is one the beginning of the other, so what is found there is the piece itself
(`bytes_prefix_drop_iff`).

The letters of ASCII are one byte each and no other character has a byte among them. So the lower
case of these letters can be taken byte by byte, and it moves nothing (`map_lowerByte_bytes`).
-/
import MapScript.Text.Basic
import Mathlib

set_option autoImplicit false

namespace MapScript.Text

/-! ## The bytes of a text -/

/-- The UTF-8 form of a text. -/
def bytes (text : Text) : List UInt8 := text.flatMap String.utf8EncodeChar

@[simp] theorem bytes_nil : bytes [] = [] := rfl

@[simp] theorem bytes_cons (c : Char) (text : Text) :
    bytes (c :: text) = String.utf8EncodeChar c ++ bytes text := List.flatMap_cons

@[simp] theorem bytes_append (left right : Text) :
    bytes (left ++ right) = bytes left ++ bytes right := List.flatMap_append

/-- The size of a text is the number of its bytes. -/
theorem length_bytes (text : Text) : (bytes text).length = byteSize text := by
  induction text with
  | nil => rfl
  | cons c text ih =>
    rw [bytes_cons, List.length_append, String.length_utf8EncodeChar, ih, byteSize]

/-- Behind the bytes of the first characters stand those of the others. -/
theorem drop_bytes (text : Text) (p : Nat) :
    (bytes text).drop (byteSize (text.take p)) = bytes (text.drop p) := by
  have hparts : bytes text = bytes (text.take p) ++ bytes (text.drop p) := by
    rw [← bytes_append, List.take_append_drop]
  rw [hparts, ← length_bytes, List.drop_left]

/-- Before a later position stand at least as many bytes. -/
theorem byteSize_take_mono (text : Text) : Monotone fun p => byteSize (text.take p) := by
  intro p q hpq
  have hparts := congrArg (List.length ∘ bytes) (List.take_append_drop p (text.take q))
  simp only [Function.comp_apply, bytes_append, List.length_append, length_bytes, List.take_take,
    min_eq_left hpq] at hparts
  change byteSize (text.take p) ≤ byteSize (text.take q)
  omega

/-! ## Where characters begin -/

/-- Of two characters neither is the beginning of the other. -/
theorem encode_append_inj {c d : Char} {left right : List UInt8}
    (h : String.utf8EncodeChar c ++ left = String.utf8EncodeChar d ++ right) :
    c = d ∧ left = right := by
  have hdecode := congrArg (fun bytes => ByteArray.utf8DecodeChar? bytes.toByteArray 0) h
  simp only [List.toByteArray_append, ByteArray.utf8DecodeChar?_utf8EncodeChar_append,
    Option.some.injEq] at hdecode
  subst hdecode
  exact ⟨rfl, List.append_cancel_left h⟩

/-- **A text begins with a piece exactly when its bytes begin with those of the piece.** -/
theorem bytes_prefix_iff {piece text : Text} : bytes piece <+: bytes text ↔ piece <+: text := by
  constructor
  · intro h
    induction piece generalizing text with
    | nil => exact List.nil_prefix
    | cons c piece ih =>
      obtain ⟨rest, hrest⟩ := h
      cases text with
      | nil => simp [String.utf8EncodeChar_ne_nil] at hrest
      | cons d text =>
        rw [bytes_cons, bytes_cons, List.append_assoc] at hrest
        obtain ⟨rfl, htail⟩ := encode_append_inj hrest
        exact List.cons_prefix_cons.2 ⟨rfl, ih ⟨rest, htail⟩⟩
  · rintro ⟨rest, rfl⟩
    rw [bytes_append]
    exact List.prefix_append ..

/-- **Where a first byte stands a character begins.** -/
theorem exists_of_isFirst {text : Text} {n : Nat} {b : UInt8} (hb : b.IsUTF8FirstByte)
    (h : (bytes text)[n]? = some b) : ∃ p, n = byteSize (text.take p) := by
  induction text generalizing n with
  | nil => simp at h
  | cons c text ih =>
    rw [bytes_cons] at h
    by_cases hn : n < (String.utf8EncodeChar c).length
    · -- within the first character there is no other first byte than its own
      rw [List.getElem?_append_left hn, List.getElem?_eq_getElem hn, Option.some.injEq] at h
      rw [← h, UInt8.isUTF8FirstByte_getElem_utf8EncodeChar] at hb
      exact ⟨0, by simp [hb, byteSize]⟩
    · rw [List.getElem?_append_right (by omega)] at h
      obtain ⟨p, hp⟩ := ih h
      refine ⟨p + 1, ?_⟩
      rw [String.length_utf8EncodeChar] at hn hp
      rw [List.take_succ_cons, byteSize]
      omega

/-- **A piece is found among the bytes of a text where it stands among its characters.** -/
theorem bytes_prefix_drop_iff {piece text : Text} (hpiece : piece ≠ []) {n : Nat} :
    bytes piece <+: (bytes text).drop n ↔
      ∃ p, n = byteSize (text.take p) ∧ piece <+: text.drop p := by
  constructor
  · intro h
    obtain ⟨c, rest, rfl⟩ := List.exists_cons_of_ne_nil hpiece
    have hpos : 0 < (String.utf8EncodeChar c).length := by simp [c.utf8Size_pos]
    have hfirst : (bytes text)[n]? = some (String.utf8EncodeChar c)[0] := by
      obtain ⟨after, hafter⟩ := h
      rw [← List.head?_drop, ← hafter, bytes_cons, List.append_assoc,
        List.head?_append_of_ne_nil _ String.utf8EncodeChar_ne_nil, List.head?_eq_getElem?,
        List.getElem?_eq_getElem hpos]
    obtain ⟨p, hp⟩ := exists_of_isFirst UInt8.isUTF8FirstByte_getElem_zero_utf8EncodeChar hfirst
    rw [hp, drop_bytes, bytes_prefix_iff] at h
    exact ⟨p, hp, h⟩
  · rintro ⟨p, rfl, h⟩
    rw [drop_bytes]
    exact bytes_prefix_iff.2 h

/-! ## Lower case -/

/-- The capital letters of ASCII by their numbers. -/
theorem isCapital_iff {c : Char} : 'A' ≤ c ∧ c ≤ 'Z' ↔ 65 ≤ c.toNat ∧ c.toNat ≤ 90 := by
  rw [Char.le_def, Char.le_def, UInt32.le_iff_toNat_le, UInt32.le_iff_toNat_le]
  rfl

/-- The small letters stand 32 above the capital ones, and no other character changes. -/
theorem toNat_toLower (c : Char) :
    c.toLower.toNat = if 'A' ≤ c ∧ c ≤ 'Z' then c.toNat + 32 else c.toNat := by
  by_cases hc : c.toNat < 128
  · have hall : ∀ n < 128, (Char.ofNat n).toLower.toNat =
        if 'A' ≤ Char.ofNat n ∧ Char.ofNat n ≤ 'Z' then (Char.ofNat n).toNat + 32
        else (Char.ofNat n).toNat := by
      decide +kernel
    simpa using hall c.toNat hc
  · have hcapital : ¬ ('A' ≤ c ∧ c ≤ 'Z') := by
      rw [isCapital_iff]
      omega
    have hupper : ¬ c.isUpper = true := fun hupper => hcapital (of_decide_eq_true hupper)
    rw [Char.toLower_eq_of_not_isUpper hupper, if_neg hcapital]

/-- A byte in lower case: the capital letters of ASCII become small ones. -/
def lowerByte (b : UInt8) : UInt8 := if 65 ≤ b ∧ b ≤ 90 then b + 32 else b

/-- No byte of a character outside of ASCII is one of ASCII. -/
theorem le_of_mem_encode {c : Char} (hc : 128 ≤ c.toNat) {b : UInt8}
    (hb : b ∈ String.utf8EncodeChar c) : 128 ≤ b := by
  have hnot : ¬ c.val.toNat ≤ 127 := by
    change ¬ c.toNat ≤ 127
    omega
  rw [UInt8.le_iff_toNat_le]
  unfold String.utf8EncodeChar at hb
  simp only [hnot, if_false] at hb
  -- each byte adds a mark of 128 or more to some bits of the number
  split at hb
  · simp only [List.mem_cons, List.not_mem_nil, or_false] at hb
    rcases hb with rfl | rfl <;> simp <;> omega
  · split at hb
    · simp only [List.mem_cons, List.not_mem_nil, or_false] at hb
      rcases hb with rfl | rfl | rfl <;> simp <;> omega
    · simp only [List.mem_cons, List.not_mem_nil, or_false] at hb
      rcases hb with rfl | rfl | rfl | rfl <;> simp <;> omega

/-- The bytes of a character in lower case are those of the character in lower case. -/
theorem map_lowerByte_encode (c : Char) :
    (String.utf8EncodeChar c).map lowerByte = String.utf8EncodeChar c.toLower := by
  by_cases hc : c.toNat < 128
  · have hall : ∀ n < 128, (String.utf8EncodeChar (Char.ofNat n)).map lowerByte =
        String.utf8EncodeChar (Char.ofNat n).toLower := by
      decide +kernel
    simpa using hall c.toNat hc
  · have hcapital : ¬ ('A' ≤ c ∧ c ≤ 'Z') := by
      rw [isCapital_iff]
      omega
    have hsame : c.toLower = c := by
      rw [← Char.toNat_inj, toNat_toLower, if_neg hcapital]
    have hbytes : ∀ b ∈ String.utf8EncodeChar c, lowerByte b = b := by
      intro b hb
      have hle := UInt8.le_iff_toNat_le.1 (le_of_mem_encode (by omega) hb)
      refine if_neg fun hletter => ?_
      have hlast := UInt8.le_iff_toNat_le.1 hletter.2
      simp at hle hlast
      omega
    rw [hsame, List.map_congr_left hbytes, List.map_id']

/-- **The lower case of a text can be taken byte by byte.** -/
theorem map_lowerByte_bytes (text : Text) :
    (bytes text).map lowerByte = bytes (text.map Char.toLower) := by
  induction text with
  | nil => rfl
  | cons c text ih =>
    rw [bytes_cons, List.map_append, map_lowerByte_encode, ih, List.map_cons, bytes_cons]

/-- It moves no character. -/
theorem byteSize_map_toLower (text : Text) :
    byteSize (text.map Char.toLower) = byteSize text := by
  rw [← length_bytes, ← length_bytes, ← map_lowerByte_bytes, List.length_map]

end MapScript.Text
