/-
Where the fractions stand.

A bare literal of an expression is a longest run of digits that lies outside of the string literals
and touches no byte of a word (`IsBareLiteral`). This says nothing of a reader: what lies outside of
the string literals is a matter of the grammar of these (`EndsOutside`). The expression with its
fractions is the expression with one fraction directly behind each bare literal, and to insert the
fractions once more changes nothing (`markIntegers_inserts`).

The positions are those among the bytes of the text. The pass reads characters, but it could as well
go byte by byte (`markBytesFrom_bytes`): each byte of a character outside of ASCII belongs to words,
as the character itself does, and none of them is a quote, a backslash or a digit. Behind any bytes
the pass stands in a gap exactly if they end outside of the string literals and not with a byte of a
word, and in digits exactly if they end with digits that follow such a gap. So it inserts at the ends
of the bare literals (`literalEndsAt_iff`).
-/
import MapScript.Proofs.Bytes
import MapScript.Proofs.Marking

set_option autoImplicit false

namespace MapScript.Expr

open Text (bytes)

/-! ## Bare literals -/

/-- The bytes of the digits. -/
def isDigitByte (b : UInt8) : Bool := 48 ≤ b && b ≤ 57

/-- The bytes of words: those of the letters and digits, of the underscore and of the point, and
every byte outside of ASCII. -/
def isWordByte (b : UInt8) : Bool :=
  isDigitByte b || (65 ≤ b && b ≤ 90) || (97 ≤ b && b ≤ 122) || b == 95 || b == 46 || 128 ≤ b

/-- The byte of the quote. -/
def quoteByte : UInt8 := 34

/-- The byte of the backslash. -/
def backslashByte : UInt8 := 92

/-- **What stands between the quotes of a string literal.** A backslash escapes the byte after it,
and a quote that is not escaped does not occur. -/
inductive IsStringBody : List UInt8 → Prop where
  | nil : IsStringBody []
  | plain {b : UInt8} {rest : List UInt8} (hquote : b ≠ quoteByte) (hbackslash : b ≠ backslashByte) :
    IsStringBody rest → IsStringBody (b :: rest)
  | escape (b : UInt8) {rest : List UInt8} :
    IsStringBody rest → IsStringBody (backslashByte :: b :: rest)

/-- **Bytes that end outside of the string literals:** every literal that begins in them ends in
them. -/
inductive EndsOutside : List UInt8 → Prop where
  | nil : EndsOutside []
  | plain {b : UInt8} {rest : List UInt8} (hquote : b ≠ quoteByte) :
    EndsOutside rest → EndsOutside (b :: rest)
  | literal {body rest : List UInt8} (hbody : IsStringBody body) :
    EndsOutside rest → EndsOutside (quoteByte :: (body ++ quoteByte :: rest))

/-- **A longest run of digits,** between what stands before it and what stands after it. -/
structure IsDigitRun (before run after : List UInt8) : Prop where
  ne_nil : run ≠ []
  digits : ∀ b ∈ run, isDigitByte b = true
  begins : ∀ b ∈ before.getLast?, isDigitByte b = false
  ends : ∀ b ∈ after.head?, isDigitByte b = false

/-- **A bare literal:** a longest run of digits outside of the string literals that no byte of a word
precedes or follows. -/
structure IsBareLiteral (before run after : List UInt8) : Prop extends
    IsDigitRun before run after where
  outside : EndsOutside before
  not_word_before : ∀ b ∈ before.getLast?, isWordByte b = false
  not_word_after : ∀ b ∈ after.head?, isWordByte b = false

/-- A bare literal ends at a position. -/
def LiteralEndsAt (bs : List UInt8) (i : Nat) : Prop :=
  ∃ before run after, bs = before ++ run ++ after ∧ (before ++ run).length = i ∧
    IsBareLiteral before run after

/-- **The bytes with `piece` inserted at the positions of `P`,** in front of the byte that stands
there or at the end. Each byte is copied once, and the order is kept. -/
def insertAt (P : Nat → Prop) [DecidablePred P] (piece bs : List UInt8) : List UInt8 :=
  (List.range (bs.length + 1)).flatMap fun i => (if P i then piece else []) ++ bs[i]?.toList

/-! ## Reading byte by byte -/

/-- A byte as the character of its number. -/
def charOfByte (b : UInt8) : Char := Char.ofNat b.toNat

/-- A property of all bytes can be checked number by number. -/
theorem forall_byte {P : UInt8 → Prop} (h : ∀ n < 256, P (UInt8.ofNat n)) (b : UInt8) : P b := by
  have hb := h b.toNat b.toNat_lt
  rwa [UInt8.ofNat_toNat] at hb

@[simp] theorem isDigit_charOfByte : ∀ b, (charOfByte b).isDigit = isDigitByte b :=
  forall_byte (by decide +kernel)

@[simp] theorem isWordChar_charOfByte : ∀ b, isWordChar (charOfByte b) = isWordByte b :=
  forall_byte (by decide +kernel)

@[simp] theorem charOfByte_eq_quote_iff : ∀ b, charOfByte b = '"' ↔ b = quoteByte :=
  forall_byte (by decide +kernel)

@[simp] theorem charOfByte_eq_backslash_iff : ∀ b, charOfByte b = '\\' ↔ b = backslashByte :=
  forall_byte (by decide +kernel)

@[simp] theorem toNat_charOfByte : ∀ b, (charOfByte b).toNat = b.toNat :=
  forall_byte (by decide +kernel)

/-- Digits belong to words. -/
theorem isWordByte_of_isDigitByte {b : UInt8} (h : isDigitByte b = true) : isWordByte b = true := by
  simp [isWordByte, h]

/-- The place after bytes. -/
def Place.afterBytes (place : Place) (bs : List UInt8) : Place :=
  bs.foldl (fun place b => place.after (charOfByte b)) place

namespace Place

@[simp] theorem afterBytes_nil (place : Place) : place.afterBytes [] = place := rfl

@[simp] theorem afterBytes_cons (place : Place) (b : UInt8) (bs : List UInt8) :
    place.afterBytes (b :: bs) = (place.after (charOfByte b)).afterBytes bs := rfl

theorem afterBytes_concat (place : Place) (bs : List UInt8) (b : UInt8) :
    place.afterBytes (bs ++ [b]) = (place.afterBytes bs).after (charOfByte b) :=
  List.foldl_concat ..

/-- Inside of a string literal. -/
def InString (place : Place) : Prop := place = .quoted ∨ place = .escaped

instance (place : Place) : Decidable place.InString := inferInstanceAs (Decidable (_ ∨ _))

end Place

/-- Inserts the fractions into bytes that are read on from `place`. -/
def markBytesFrom (place : Place) : List UInt8 → List UInt8
  | [] => if place = .digits then bytes fraction else []
  | b :: rest =>
    (if place.endsBefore (charOfByte b) then bytes fraction else []) ++
      b :: markBytesFrom (place.after (charOfByte b)) rest

/-! ### Characters outside of ASCII -/

section High

variable {c : Char} (hc : 128 ≤ c.toNat)

include hc

/-- A character outside of ASCII belongs to words, and it is no digit, no quote and no backslash. -/
theorem isWordChar_of_le : isWordChar c = true := by
  simp [isWordChar, hc]

theorem isDigit_of_le : c.isDigit = false := by
  rw [Bool.eq_false_iff]
  intro hdigit
  have hbound := Char.isDigit_iff_toNat.1 hdigit
  simp at hbound
  omega

theorem ne_ascii_of_le {d : Char} (hd : d.toNat < 128) : c ≠ d := by
  rintro rfl
  omega

/-- It ends no literal. -/
theorem Place.endsBefore_of_le (place : Place) : place.endsBefore c = false := by
  rw [Place.endsBefore, isWordChar_of_le hc, Bool.not_true, Bool.and_false]

/-- Behind it the pass stands in a word, or in a string literal if it did before. -/
theorem Place.after_of_le (place : Place) :
    place.after c = if place.InString then .quoted else .word := by
  have hquote : c ≠ '"' := ne_ascii_of_le hc (by decide)
  have hbackslash : c ≠ '\\' := ne_ascii_of_le hc (by decide)
  cases place <;>
    simp [Place.after, Place.InString, hquote, hbackslash, isDigit_of_le hc, isWordChar_of_le hc]

end High

/-- Bytes outside of ASCII are copied, and behind them the pass stands where it stands behind one
character outside of ASCII. -/
theorem markBytesFrom_high {high : List UInt8} (hne : high ≠ []) (hhigh : ∀ b ∈ high, 128 ≤ b)
    (place : Place) (rest : List UInt8) :
    markBytesFrom place (high ++ rest) =
      high ++ markBytesFrom (if place.InString then .quoted else .word) rest := by
  induction high generalizing place with
  | nil => exact absurd rfl hne
  | cons b high ih =>
    obtain ⟨hb, hmore⟩ := List.forall_mem_cons.1 hhigh
    have hchar : 128 ≤ (charOfByte b).toNat := by
      rw [toNat_charOfByte]
      exact UInt8.le_iff_toNat_le.1 hb
    rw [List.cons_append, markBytesFrom, Place.endsBefore_of_le hchar, Place.after_of_le hchar]
    by_cases hnil : high = []
    · subst hnil
      rfl
    · rw [ih hnil hmore]
      -- a second byte changes nothing any more
      by_cases hin : place.InString
      · rw [if_pos hin]
        rfl
      · rw [if_neg hin]
        rfl

/-- The bytes of a character are read as the character is. -/
theorem markBytesFrom_encode (place : Place) (c : Char) (rest : List UInt8) :
    markBytesFrom place (String.utf8EncodeChar c ++ rest) =
      (if place.endsBefore c then bytes fraction else []) ++
        String.utf8EncodeChar c ++ markBytesFrom (place.after c) rest := by
  by_cases hc : c.toNat < 128
  · -- a character of ASCII is the one byte of its number
    have hbyte : String.utf8EncodeChar c = [UInt8.ofNat c.toNat] ∧
        charOfByte (UInt8.ofNat c.toNat) = c := by
      have hall : ∀ n < 128, String.utf8EncodeChar (Char.ofNat n) =
            [UInt8.ofNat (Char.ofNat n).toNat] ∧
          charOfByte (UInt8.ofNat (Char.ofNat n).toNat) = Char.ofNat n := by
        decide +kernel
      simpa using hall c.toNat hc
    rw [hbyte.1, List.singleton_append, markBytesFrom, hbyte.2, List.append_assoc,
      List.singleton_append]
  · have hle : 128 ≤ c.toNat := Nat.le_of_not_lt hc
    rw [markBytesFrom_high String.utf8EncodeChar_ne_nil (fun b => Text.le_of_mem_encode hle),
      Place.endsBefore_of_le hle, Place.after_of_le hle]
    rfl

/-- **The pass can as well go byte by byte.** -/
theorem markBytesFrom_bytes (place : Place) (text : Text) :
    markBytesFrom place (bytes text) = bytes (markIntegersFrom place text) := by
  induction text generalizing place with
  | nil =>
    rw [markIntegersFrom, Text.bytes_nil, markBytesFrom]
    split <;> rfl
  | cons c text ih =>
    rw [Text.bytes_cons, markBytesFrom_encode, ih, markIntegersFrom, Text.bytes_append,
      Text.bytes_cons, List.append_assoc]
    split <;> rfl

/-! ## Where the pass stands -/

/-! ### String literals -/

/-- The bytes from inside of a string literal on: what is left of it, and then bytes that end
outside. -/
def Leaves (bs : List UInt8) : Prop :=
  ∃ body rest, bs = body ++ quoteByte :: rest ∧ IsStringBody body ∧ EndsOutside rest

/-- What leads from a place out of the string literals. This is what an induction on the bytes can
carry along, since `EndsOutside` reads a whole literal at once. -/
def Place.Completes (place : Place) (bs : List UInt8) : Prop :=
  match place with
  | .gap | .word | .digits => EndsOutside bs
  | .quoted => Leaves bs
  | .escaped => ∃ b rest, bs = b :: rest ∧ Leaves rest

section Step

variable {b : UInt8} {bs : List UInt8}

/-- A quote begins a string literal. -/
theorem endsOutside_quote : EndsOutside (quoteByte :: bs) ↔ Leaves bs := by
  constructor
  · intro h
    generalize hall : quoteByte :: bs = all at h
    cases h with
    | nil => cases hall
    | plain hquote _ => exact absurd (List.cons.inj hall).1.symm hquote
    | literal hbody hrest => exact ⟨_, _, (List.cons.inj hall).2, hbody, hrest⟩
  · rintro ⟨body, rest, rfl, hbody, hrest⟩
    exact .literal hbody hrest

/-- Any other byte begins none. -/
theorem endsOutside_cons (hquote : b ≠ quoteByte) : EndsOutside (b :: bs) ↔ EndsOutside bs := by
  constructor
  · intro h
    cases h with
    | plain _ hrest => exact hrest
    | literal _ _ => exact absurd rfl hquote
  · exact .plain hquote

/-- A quote ends the string literal. -/
theorem leaves_quote : Leaves (quoteByte :: bs) ↔ EndsOutside bs := by
  constructor
  · rintro ⟨body, rest, heq, hbody, hrest⟩
    cases hbody with
    | nil => rwa [(List.cons.inj heq).2]
    | plain hquote _ _ => exact absurd (List.cons.inj heq).1.symm hquote
    | escape b _ => exact absurd (List.cons.inj heq).1 (by decide)
  · exact fun h => ⟨[], bs, rfl, .nil, h⟩

/-- A backslash takes the byte after it along. -/
theorem leaves_backslash :
    Leaves (backslashByte :: bs) ↔ ∃ b rest, bs = b :: rest ∧ Leaves rest := by
  constructor
  · rintro ⟨body, rest, heq, hbody, hrest⟩
    cases hbody with
    | nil => exact absurd (List.cons.inj heq).1 (by decide)
    | plain _ hbackslash _ => exact absurd (List.cons.inj heq).1.symm hbackslash
    | escape b hbody => exact ⟨b, _, (List.cons.inj heq).2, _, _, rfl, hbody, hrest⟩
  · rintro ⟨b, _, rfl, body, rest, rfl, hbody, hrest⟩
    exact ⟨backslashByte :: b :: body, rest, rfl, .escape b hbody, hrest⟩

/-- Any other byte stands in the literal. -/
theorem leaves_cons (hquote : b ≠ quoteByte) (hbackslash : b ≠ backslashByte) :
    Leaves (b :: bs) ↔ Leaves bs := by
  constructor
  · rintro ⟨body, rest, heq, hbody, hrest⟩
    cases hbody with
    | nil => exact absurd (List.cons.inj heq).1 hquote
    | plain _ _ hbody => exact ⟨_, _, (List.cons.inj heq).2, hbody, hrest⟩
    | escape _ _ => exact absurd (List.cons.inj heq).1 hbackslash
  · rintro ⟨body, rest, rfl, hbody, hrest⟩
    exact ⟨b :: body, rest, rfl, .plain hquote hbackslash hbody, hrest⟩

end Step

namespace Place

variable {place : Place}

/-- Outside there is nothing to be completed but what begins later. -/
theorem completes_of_not_inString (h : ¬ place.InString) (bs : List UInt8) :
    place.Completes bs ↔ EndsOutside bs := by
  cases place with
  | gap | word | digits => exact Iff.rfl
  | quoted => exact absurd (.inl rfl) h
  | escaped => exact absurd (.inr rfl) h

/-- Outside of the string literals a quote begins one. -/
theorem after_quote (h : ¬ place.InString) : place.after (charOfByte quoteByte) = .quoted := by
  cases place with
  | gap | word | digits => rfl
  | quoted => exact absurd (.inl rfl) h
  | escaped => exact absurd (.inr rfl) h

/-- And every other byte leads to a place outside. -/
theorem not_inString_after (h : ¬ place.InString) {b : UInt8} (hquote : b ≠ quoteByte) :
    ¬ (place.after (charOfByte b)).InString := by
  cases place with
  | quoted => exact absurd (.inl rfl) h
  | escaped => exact absurd (.inr rfl) h
  | gap | word | digits =>
    simp only [after, charOfByte_eq_quote_iff, if_neg hquote]
    split_ifs <;> decide

/-- **One byte** leads to a place from which what follows leads out, and no other does. -/
theorem completes_cons (place : Place) (b : UInt8) (bs : List UInt8) :
    place.Completes (b :: bs) ↔ (place.after (charOfByte b)).Completes bs := by
  by_cases hin : place.InString
  · rcases hin with rfl | rfl
    · change Leaves (b :: bs) ↔ _
      simp only [after, charOfByte_eq_backslash_iff, charOfByte_eq_quote_iff]
      split_ifs with hbackslash hquote
      · subst hbackslash
        exact leaves_backslash
      · subst hquote
        exact leaves_quote
      · exact leaves_cons hquote hbackslash
    · -- the byte is escaped, whatever it is
      constructor
      · rintro ⟨_, _, heq, h⟩
        obtain ⟨-, rfl⟩ := List.cons.inj heq
        exact h
      · exact fun h => ⟨b, bs, rfl, h⟩
  · rw [completes_of_not_inString hin]
    by_cases hquote : b = quoteByte
    · subst hquote
      rw [after_quote hin]
      exact endsOutside_quote
    · rw [completes_of_not_inString (not_inString_after hin hquote)]
      exact endsOutside_cons hquote

/-- Nothing leads out only where the pass stands outside. -/
theorem completes_nil (place : Place) : place.Completes [] ↔ ¬ place.InString := by
  by_cases hin : place.InString
  · refine iff_of_false ?_ (not_not.2 hin)
    rcases hin with rfl | rfl
    · rintro ⟨body, rest, heq, -⟩
      simp at heq
    · rintro ⟨_, _, heq, -⟩
      cases heq
  · exact iff_of_true ((completes_of_not_inString hin []).2 .nil) hin

/-- **What follows leads out exactly if the pass stands outside behind it.** -/
theorem completes_iff (place : Place) (bs : List UInt8) :
    place.Completes bs ↔ ¬ (place.afterBytes bs).InString := by
  induction bs generalizing place with
  | nil => exact completes_nil place
  | cons b bs ih => rw [completes_cons, ih, afterBytes_cons]

end Place

/-- The place behind bytes that are read from their beginning on. -/
def placeAfter (bs : List UInt8) : Place := Place.gap.afterBytes bs

theorem placeAfter_concat (bs : List UInt8) (b : UInt8) :
    placeAfter (bs ++ [b]) = (placeAfter bs).after (charOfByte b) :=
  Place.afterBytes_concat ..

/-- **The pass stands outside of the string literals where the bytes before it end outside.** -/
theorem endsOutside_iff (bs : List UInt8) : EndsOutside bs ↔ ¬ (placeAfter bs).InString :=
  Place.completes_iff .gap bs

/-! ### Gaps and digits -/

/-- Outside of the string literals, what is no byte of a word leads to a gap, and nothing else
does. -/
theorem Place.after_eq_gap_iff (place : Place) (b : UInt8) :
    place.after (charOfByte b) = .gap ↔
      ¬ (place.after (charOfByte b)).InString ∧ isWordByte b = false := by
  have hdigit := @isWordByte_of_isDigitByte b
  have hquote : b = quoteByte → isWordByte b = false := by
    rintro rfl
    rfl
  cases place with
  | escaped =>
    -- an escaped byte leads back into the literal, whatever it is
    exact iff_of_false nofun fun h => h.1 (.inl rfl)
  | gap | word | digits | quoted =>
    simp only [after, charOfByte_eq_backslash_iff, charOfByte_eq_quote_iff, isDigit_charOfByte,
      isWordChar_charOfByte]
    split_ifs <;> simp_all [InString]

/-- **The pass stands in a gap** behind bytes that end outside of the string literals and not with a
byte of a word. -/
theorem placeAfter_eq_gap_iff (bs : List UInt8) :
    placeAfter bs = .gap ↔ EndsOutside bs ∧ ∀ b ∈ bs.getLast?, isWordByte b = false := by
  rw [endsOutside_iff]
  induction bs using List.reverseRecOn with
  | nil => exact iff_of_true rfl ⟨by decide, nofun⟩
  | append_singleton bs b _ =>
    rw [placeAfter_concat, Place.after_eq_gap_iff]
    simp

/-- Only digits lead among digits, from a gap or from digits. -/
theorem Place.after_eq_digits_iff (place : Place) (b : UInt8) :
    place.after (charOfByte b) = .digits ↔
      (place = .gap ∨ place = .digits) ∧ isDigitByte b = true := by
  have hquote : b = quoteByte → isDigitByte b = false := by
    rintro rfl
    rfl
  cases place with
  | escaped => exact iff_of_false nofun fun h => by simp at h
  | gap | word | digits | quoted =>
    simp only [after, charOfByte_eq_backslash_iff, charOfByte_eq_quote_iff, isDigit_charOfByte,
      isWordChar_charOfByte]
    split_ifs <;> simp_all

/-- **It stands in digits** behind a gap and a run of digits. -/
theorem placeAfter_eq_digits_iff (bs : List UInt8) :
    placeAfter bs = .digits ↔
      ∃ before run, bs = before ++ run ∧ run ≠ [] ∧ (∀ b ∈ run, isDigitByte b = true) ∧
        placeAfter before = .gap := by
  induction bs using List.reverseRecOn with
  | nil =>
    refine iff_of_false nofun ?_
    rintro ⟨before, run, heq, hne, -⟩
    exact hne (List.append_eq_nil_iff.1 heq.symm).2
  | append_singleton bs b ih =>
    rw [placeAfter_concat, Place.after_eq_digits_iff, ih]
    constructor
    · rintro ⟨hgap | ⟨before, run, rfl, hne, hdigits, hgap⟩, hb⟩
      · -- the run begins with this digit
        exact ⟨bs, [b], rfl, by simp, by simpa using hb, hgap⟩
      · -- the run goes on
        refine ⟨before, run ++ [b], by simp, by simp, ?_, hgap⟩
        exact List.forall_mem_append.2 ⟨hdigits, by simpa using hb⟩
    · rintro ⟨before, run, heq, hne, hdigits, hgap⟩
      cases run using List.reverseRecOn with
      | nil => exact absurd rfl hne
      | append_singleton run c =>
        rw [← List.append_assoc] at heq
        obtain ⟨rfl, hc⟩ := List.append_inj' heq rfl
        obtain rfl := List.head_eq_of_cons_eq hc
        obtain ⟨hrun, hb⟩ := List.forall_mem_append.1 hdigits
        refine ⟨?_, hb b (by simp)⟩
        by_cases hnil : run = []
        · subst hnil
          exact .inl (by simpa using hgap)
        · exact .inr ⟨before, run, rfl, hnil, hrun, hgap⟩

/-- What is no byte of a word is no digit. -/
theorem isDigitByte_of_isWordByte {b : UInt8} (h : isWordByte b = false) :
    isDigitByte b = false := by
  rw [Bool.eq_false_iff]
  intro hdigit
  rw [isWordByte_of_isDigitByte hdigit] at h
  cases h

/-- **A bare literal ends where the pass stands in digits and no byte of a word follows.** -/
theorem literalEndsAt_iff (before after : List UInt8) :
    LiteralEndsAt (before ++ after) before.length ↔
      placeAfter before = .digits ∧ ∀ b ∈ after.head?, isWordByte b = false := by
  rw [placeAfter_eq_digits_iff]
  constructor
  · rintro ⟨front, run, rest, heq, hlength, h⟩
    obtain ⟨rfl, rfl⟩ := List.append_inj heq hlength.symm
    refine ⟨⟨front, run, rfl, h.ne_nil, h.digits, ?_⟩, h.not_word_after⟩
    exact (placeAfter_eq_gap_iff front).2 ⟨h.outside, h.not_word_before⟩
  · rintro ⟨⟨front, run, rfl, hne, hdigits, hgap⟩, hafter⟩
    obtain ⟨houtside, hbefore⟩ := (placeAfter_eq_gap_iff front).1 hgap
    exact ⟨front, run, after, rfl, rfl, {
      ne_nil := hne
      digits := hdigits
      begins := fun b hb => isDigitByte_of_isWordByte (hbefore b hb)
      ends := fun b hb => isDigitByte_of_isWordByte (hafter b hb)
      outside := houtside
      not_word_before := hbefore
      not_word_after := hafter }⟩

/-- The same at any position among the bytes. -/
theorem literalEndsAt_iff_take (bs : List UInt8) (i : Nat) :
    LiteralEndsAt bs i ↔ i ≤ bs.length ∧ placeAfter (bs.take i) = .digits ∧
      ∀ b ∈ (bs.drop i).head?, isWordByte b = false := by
  have hle : LiteralEndsAt bs i → i ≤ bs.length := by
    rintro ⟨before, run, after, rfl, rfl, -⟩
    simp
  rw [← and_iff_right_of_imp hle]
  refine and_congr_right fun hi => ?_
  rw [← literalEndsAt_iff, List.take_append_drop, List.length_take_of_le hi]

instance (bs : List UInt8) : DecidablePred (LiteralEndsAt bs) := fun i =>
  decidable_of_iff _ (literalEndsAt_iff_take bs i).symm

/-! ## The fractions -/

/-- What a position becomes: a fraction, if a bare literal ends there, and the byte. -/
def markedAt (bs : List UInt8) (i : Nat) : List UInt8 :=
  (if LiteralEndsAt bs i then bytes fraction else []) ++ bs[i]?.toList

/-- **One position.** Where the pass stands behind the bytes before it, it inserts as the definition
says. -/
theorem markedAt_length (before after : List UInt8) :
    markedAt (before ++ after) before.length =
      (if placeAfter before = .digits ∧ ∀ b ∈ after.head?, isWordByte b = false then bytes fraction
        else []) ++ after.head?.toList := by
  rw [markedAt, if_congr (literalEndsAt_iff before after) rfl rfl, List.getElem?_append_right le_rfl,
    Nat.sub_self, List.head?_eq_getElem?]

/-- **From any position on** the pass inserts as the definition says. -/
theorem markBytesFrom_eq (before rest : List UInt8) :
    markBytesFrom (placeAfter before) rest =
      (List.range' before.length (rest.length + 1)).flatMap (markedAt (before ++ rest)) := by
  induction rest generalizing before with
  | nil =>
    rw [markBytesFrom, List.length_nil, List.range'_one, List.flatMap_singleton, markedAt_length]
    simp
  | cons b rest ih =>
    have hmore := ih (before ++ [b])
    rw [placeAfter_concat, List.append_assoc, List.singleton_append, List.length_append,
      List.length_singleton] at hmore
    rw [List.length_cons, List.range'_succ, List.flatMap_cons, markedAt_length, ← hmore,
      markBytesFrom]
    simp [Place.endsBefore]

/-- What is no character of a word leads from a word to where it leads from digits. -/
theorem after_word_eq_after_digits {c : Char} (hword : isWordChar c = false) :
    Place.word.after c = Place.digits.after c := by
  have hdigit : c.isDigit = false := by
    rw [Bool.eq_false_iff]
    intro hdigit
    rw [isWordChar_of_isDigit hdigit] at hword
    cases hword
  simp [Place.after, hword, hdigit]

/-- **To insert the fractions once more changes nothing,** from whatever place on: behind a fraction
the pass stands in a word, and what ends a literal is read there as it is among the digits. -/
theorem markIntegersFrom_markIntegersFrom (place : Place) (text : Text) :
    markIntegersFrom place (markIntegersFrom place text) = markIntegersFrom place text := by
  induction text generalizing place with
  | nil =>
    rw [markIntegersFrom]
    split
    · rename_i hdigits
      rw [hdigits]
      rfl
    · rename_i hdigits
      rw [markIntegersFrom, if_neg hdigits]
  | cons c rest ih =>
    rw [markIntegersFrom]
    by_cases hends : place.endsBefore c = true
    · obtain ⟨rfl, hword⟩ : place = .digits ∧ isWordChar c = false := by
        simpa [Place.endsBefore] using hends
      have hafter : Place.word.after c = Place.digits.after c := after_word_eq_after_digits hword
      have hinserted (marked : Text) : markIntegersFrom .digits (fraction ++ c :: marked) =
          fraction ++ c :: markIntegersFrom (Place.word.after c) marked := rfl
      rw [if_pos hends, hinserted, hafter, ih]
    · rw [if_neg hends, List.nil_append, markIntegersFrom, if_neg hends, List.nil_append, ih]

/-- The fraction as it is written. -/
theorem fraction_eq : fraction = ".0".toList := rfl

/-- **A `.0` stands behind each bare literal and nowhere else,** and to insert the fractions once more
changes nothing. -/
theorem markIntegers_inserts (text : Text) :
    bytes (markIntegers text) =
        insertAt (LiteralEndsAt (bytes text)) (bytes ".0".toList) (bytes text) ∧
      markIntegers (markIntegers text) = markIntegers text := by
  refine ⟨?_, markIntegersFrom_markIntegersFrom .gap text⟩
  rw [markIntegers, ← markBytesFrom_bytes, ← fraction_eq, insertAt, List.range_eq_range']
  exact markBytesFrom_eq [] (bytes text)

/-- Of the runs of digits in `"1"+x2/10` only the last one is a bare literal. -/
example : markIntegers "\"1\"+x2/10".toList = "\"1\"+x2/10.0".toList := by decide

end MapScript.Expr
