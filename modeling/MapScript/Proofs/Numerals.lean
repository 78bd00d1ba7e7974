/-
What a run of an expression writes on its own.

A run is an integer, a double, a truth value or a name, and it is read without what stands around
it. Here it is read as the pieces have it, without a sign in front. Digits alone are an integer if
they fit, and a double otherwise; with the fraction that is inserted after them they are the double
of the same value (`read?_fraction`). A run that is an integer without being digits is hexadecimal
(`of_readInteger?_eq_some`). And where a sign stands inside of a number, what precedes it has none and
what follows it is an exponent, digits only (`isDigits_of_read?_eq_some`).
-/
import MapScript.Expr.Literal
import MapScript.Expr.Token
import MapScript.Proofs.WholeNumbers

set_option autoImplicit false

namespace MapScript

/-! ## Digits -/

/-- Digits only, and at least one. -/
def Text.IsDigits (text : Text) : Prop := text ≠ [] ∧ text.all Char.isDigit = true

instance (text : Text) : Decidable text.IsDigits := inferInstanceAs (Decidable (_ ∧ _))

namespace Number

/-- The digits of numerals are the digits of ASCII. -/
theorem isDigit_eq : isDigit = Char.isDigit := rfl

/-- The digits of base ten are those, each with its value. -/
theorem digitValue?_eq_some_iff {c : Char} {value : Nat} :
    Text.digitValue? 10 c = some value ↔ c.isDigit = true ∧ c.toNat - '0'.toNat = value := by
  have hdigit : ('0' ≤ c ∧ c ≤ '9') ↔ c.isDigit = true := by
    rw [← isDigit_eq, isDigit, Bool.and_eq_true, decide_eq_true_iff, decide_eq_true_iff]
  rw [Text.digitValue?, Option.filter_eq_some_iff, decide_eq_true_iff]
  by_cases hc : '0' ≤ c ∧ c ≤ '9'
  · have hbound := Char.isDigit_iff_toNat.1 (hdigit.1 hc)
    have hnine : '9'.toNat = '0'.toNat + 9 := rfl
    rw [if_pos hc, Option.some.injEq, ← hdigit]
    exact ⟨fun h => ⟨hc, h.1⟩, fun h => ⟨h.2, by omega⟩⟩
  · -- a letter is worth ten at least
    rw [if_neg hc]
    constructor
    · rintro ⟨hletter, hlt⟩
      split at hletter
      · have := Option.some.inj hletter
        omega
      · split at hletter
        · have := Option.some.inj hletter
          omega
        · cases hletter
    · exact fun h => absurd (hdigit.2 h.1) hc

/-- Digits continue a number, and nothing else does. -/
theorem digitsFrom?_eq_some_iff {accumulated value : Nat} {text : Text} :
    Text.digitsFrom? 10 accumulated text = some value ↔
      text.all Char.isDigit = true ∧
        text.foldl (fun n c => 10 * n + (c.toNat - '0'.toNat)) accumulated = value := by
  induction text generalizing accumulated with
  | nil => simp [Text.digitsFrom?]
  | cons c rest ih =>
    rw [Text.digitsFrom?, List.all_cons, Bool.and_eq_true, List.foldl_cons]
    split
    · rename_i d hd
      obtain ⟨hc, rfl⟩ := digitValue?_eq_some_iff.1 hd
      rw [ih, Nat.mul_comm 10, and_assoc, and_iff_right hc]
    · rename_i hnone
      constructor
      · intro h
        cases h
      · rintro ⟨⟨hc, -⟩, -⟩
        rw [digitValue?_eq_some_iff.2 ⟨hc, rfl⟩] at hnone
        cases hnone

/-- **Digits write their value,** and nothing else writes a number without a sign. -/
theorem digits?_eq_some_iff {value : Nat} {text : Text} :
    Text.digits? 10 text = some value ↔ text.IsDigits ∧ digitsValue text = value := by
  cases text with
  | nil => exact ⟨nofun, fun h => absurd rfl h.1.1⟩
  | cons c rest =>
    rw [Text.digits?, digitsFrom?_eq_some_iff, Text.IsDigits, digitsValue]
    simp

/-! ## Doubles -/

/-- A character that is a sign. -/
def IsSign (c : Char) : Prop := c = '+' ∨ c = '-'

instance (c : Char) : Decidable (IsSign c) := inferInstanceAs (Decidable (_ ∨ _))

/-- Without a sign in front there is none to split off. -/
theorem splitSign_of_unsigned {text : Text} (h : ∀ c ∈ text.head?, ¬ IsSign c) :
    splitSign text = (false, text) := by
  rw [splitSign.eq_def]
  split
  · exact absurd (.inr rfl) (h '-' rfl)
  · exact absurd (.inl rfl) (h '+' rfl)
  · rfl

/-- Digits end where something else begins. -/
theorem span_isDigit {digits : Text} (hdigits : digits.all Char.isDigit = true) (rest : Text)
    (hrest : ∀ c ∈ rest.head?, c.isDigit = false) :
    (digits ++ rest).span isDigit = (digits, rest) := by
  rw [isDigit_eq, List.span_eq_takeWhile_dropWhile]
  rw [List.all_eq_true] at hdigits
  rw [List.takeWhile_append_of_pos hdigits, List.dropWhile_append_of_pos hdigits]
  cases rest with
  | nil => simp
  | cons c rest =>
    have hc := hrest c rfl
    simp [hc]

/-- A digit is no sign. -/
theorem not_isSign_of_isDigit {c : Char} (h : c.isDigit = true) : ¬ IsSign c := by
  rintro (rfl | rfl) <;> exact absurd h (by decide)

/-- Digits have no sign in front. -/
theorem unsigned_of_isDigits {digits : Text} (h : digits.IsDigits) (rest : Text) :
    ∀ c ∈ (digits ++ rest).head?, ¬ IsSign c := by
  obtain ⟨hne, hall⟩ := h
  cases digits with
  | nil => exact absurd rfl hne
  | cons first more =>
    rintro c ⟨⟩
    exact not_isSign_of_isDigit (List.all_eq_true.1 hall _ List.mem_cons_self)

variable {digits : Text} (h : digits.IsDigits)

include h

/-- **Digits are read as the double of their value.** -/
theorem read?_digits : read? digits = some (Scientific.toFloat ⟨false, digitsValue digits, 0⟩) := by
  have hspan := span_isDigit h.2 [] nofun
  have hsign := splitSign_of_unsigned (unsigned_of_isDigits h [])
  rw [List.append_nil] at hspan hsign
  rw [read?, hsign]
  dsimp only
  rw [readUnsigned?, hspan]
  dsimp only
  rw [if_neg fun hnone => h.1 hnone.1, List.append_nil]
  rfl

/-- **With a fraction they are read as the same double.** -/
theorem read?_fraction : read? (digits ++ Expr.fraction) = read? digits := by
  have hspan := span_isDigit h.2 Expr.fraction (by rintro c ⟨⟩; rfl)
  have hvalue : digitsValue (digits ++ ['0']) = 10 * digitsValue digits := by
    rw [digitsValue, List.foldl_append]
    rfl
  have hdecimal : readUnsigned? false (digits ++ Expr.fraction) =
      some ⟨false, digitsValue (digits ++ ['0']), -1⟩ := by
    rw [readUnsigned?, hspan, Expr.fraction]
    exact if_neg fun hnone => h.1 hnone.1
  rw [read?_digits h, ← toFloat_ten_mul, ← hvalue, read?,
    splitSign_of_unsigned (unsigned_of_isDigits h Expr.fraction)]
  dsimp only
  rw [hdecimal]

omit h

/-! ## Powers of ten with a sign -/

/-- Splitting off a sign takes one character at most. -/
theorem of_splitSign_eq {text digits : Text} {negative : Bool}
    (h : splitSign text = (negative, digits)) :
    text = digits ∨ ∃ sign, IsSign sign ∧ text = sign :: digits := by
  rw [splitSign.eq_def] at h
  split at h
  · cases h
    exact .inr ⟨'-', .inr rfl, rfl⟩
  · cases h
    exact .inr ⟨'+', .inl rfl, rfl⟩
  · cases h
    exact .inl rfl

/-- A text of digits has no sign. -/
theorem not_isSign_of_mem {digits : Text} (h : digits.all Char.isDigit = true) :
    ∀ c ∈ digits, ¬ IsSign c :=
  fun c hc => not_isSign_of_isDigit (List.all_eq_true.1 h c hc)

/-- A sign in a power of ten comes after its mark, and digits follow. -/
theorem of_readExponent?_eq_some {rest : Text} {exponent : Int}
    (h : readExponent? rest = some exponent) :
    (∀ c ∈ rest, ¬ IsSign c) ∨
      ∃ (mark sign : Char) (digits : Text),
        rest = mark :: sign :: digits ∧ ¬ IsSign mark ∧ IsSign sign ∧ digits.IsDigits := by
  cases rest with
  | nil => exact .inl nofun
  | cons mark rest =>
    rw [readExponent?] at h
    split at h
    · rename_i hmark
      have hnotSign : ¬ IsSign mark := by
        rcases hmark with rfl | rfl <;> decide
      rcases hsplit : splitSign rest with ⟨negative, digits⟩
      rw [hsplit] at h
      dsimp only at h
      split at h
      · cases h
      · rename_i hdigits
        obtain ⟨hne, hall⟩ := not_or.1 hdigits
        rw [Bool.not_eq_true', Bool.not_eq_false, isDigit_eq] at hall
        rcases of_splitSign_eq hsplit with rfl | ⟨sign, hsign, rfl⟩
        · exact .inl (List.forall_mem_cons.2 ⟨hnotSign, not_isSign_of_mem hall⟩)
        · exact .inr ⟨mark, sign, digits, rfl, hnotSign, hsign, hne, hall⟩
    · cases h

/-- The digits in front of a text have no sign. -/
theorem of_span_isDigit_eq {text front rest : Text} (h : text.span isDigit = (front, rest)) :
    text = front ++ rest ∧ ∀ c ∈ front, ¬ IsSign c := by
  rw [isDigit_eq, List.span_eq_takeWhile_dropWhile, Prod.mk.injEq] at h
  obtain ⟨rfl, rfl⟩ := h
  exact ⟨List.takeWhile_append_dropWhile.symm, not_isSign_of_mem List.all_takeWhile⟩

/-- So does a sign inside of a numeral. -/
theorem of_readUnsigned?_eq_some {negative : Bool} {text : Text} {decimal : Scientific}
    (h : readUnsigned? negative text = some decimal) :
    (∀ c ∈ text, ¬ IsSign c) ∨
      ∃ (before digits : Text) (sign : Char), text = before ++ sign :: digits ∧
        (∀ c ∈ before, ¬ IsSign c) ∧ IsSign sign ∧ digits.IsDigits := by
  rw [readUnsigned?] at h
  rcases hwhole : text.span isDigit with ⟨whole, rest⟩
  obtain ⟨rfl, hunsigned⟩ := of_span_isDigit_eq hwhole
  rw [hwhole] at h
  dsimp only at h
  -- what precedes the power of ten is digits and perhaps a point
  obtain ⟨front, last, hrest, hfront, hexponent⟩ : ∃ front last, rest = front ++ last ∧
      (∀ c ∈ front, ¬ IsSign c) ∧ (readExponent? last).isSome := by
    split at h
    · rename_i more
      rcases hfraction : more.span isDigit with ⟨fraction, last⟩
      obtain ⟨rfl, hmore⟩ := of_span_isDigit_eq hfraction
      rw [hfraction] at h
      dsimp only at h
      split at h
      · cases h
      · obtain ⟨exponent, hexponent, -⟩ := Option.map_eq_some_iff.1 h
        exact ⟨'.' :: fraction, last, rfl, List.forall_mem_cons.2 ⟨by decide, hmore⟩,
          Option.isSome_of_eq_some hexponent⟩
    · split at h
      · cases h
      · obtain ⟨exponent, hexponent, -⟩ := Option.map_eq_some_iff.1 h
        exact ⟨[], rest, rfl, nofun, Option.isSome_of_eq_some hexponent⟩
  subst hrest
  have hbefore : ∀ c ∈ whole ++ front, ¬ IsSign c := List.forall_mem_append.2 ⟨hunsigned, hfront⟩
  obtain ⟨exponent, hexponent⟩ := Option.isSome_iff_exists.1 hexponent
  rw [← List.append_assoc]
  rcases of_readExponent?_eq_some hexponent with
    hnone | ⟨mark, sign, digits, rfl, hmark, hsign, hdigits⟩
  · exact .inl (List.forall_mem_append.2 ⟨hbefore, hnone⟩)
  · refine .inr ⟨whole ++ front ++ [mark], digits, sign, List.append_cons .., ?_, hsign, hdigits⟩
    exact List.forall_mem_append.2 ⟨hbefore, List.forall_mem_singleton.2 hmark⟩

/-- Two texts without a sign are one if signs follow them in one text. -/
theorem eq_of_append_sign_eq {first second after after' : Text} {sign sign' : Char}
    (hfirst : ∀ c ∈ first, ¬ IsSign c) (hsecond : ∀ c ∈ second, ¬ IsSign c)
    (hsign : IsSign sign) (hsign' : IsSign sign')
    (h : first ++ sign :: after = second ++ sign' :: after') : after = after' := by
  induction first generalizing second with
  | nil =>
    cases second with
    | nil => exact (List.cons.inj h).2
    | cons c rest =>
      obtain ⟨rfl, -⟩ := List.cons.inj h
      exact absurd hsign (hsecond _ List.mem_cons_self)
  | cons d first ih =>
    cases second with
    | nil =>
      obtain ⟨rfl, -⟩ := List.cons.inj h
      exact absurd hsign' (hfirst _ List.mem_cons_self)
    | cons c rest =>
      exact ih (List.forall_mem_cons.1 hfirst).2 (List.forall_mem_cons.1 hsecond).2
        (List.cons.inj h).2

/-- The words that write numbers have no sign. -/
theorem not_isSign_of_readWord?_eq_some {text : Text} {x : Float} (h : readWord? text = some x) :
    ∀ c ∈ text, ¬ IsSign c := by
  intro c hc hsign
  have hlower : c.toLower = c := by
    rcases hsign with rfl | rfl <;> rfl
  have hmem : c ∈ text.map Char.toLower := List.mem_map.2 ⟨c, hc, hlower⟩
  rw [readWord?] at h
  split at h
  · rename_i hword
    rcases hword with hword | hword
    · rw [hword] at hmem
      rcases hsign with rfl | rfl <;> exact absurd hmem (by decide)
    · rw [hword] at hmem
      rcases hsign with rfl | rfl <;> exact absurd hmem (by decide)
  · split at h
    · rename_i hword
      rw [hword] at hmem
      rcases hsign with rfl | rfl <;> exact absurd hmem (by decide)
    · cases h

/-- **What follows a sign inside of a number is digits.** -/
theorem isDigits_of_read?_eq_some {before after : Text} {sign : Char} {x : Float}
    (hne : before ≠ []) (hbefore : ∀ c ∈ before, ¬ IsSign c) (hsign : IsSign sign)
    (h : read? (before ++ sign :: after) = some x) : after.IsDigits := by
  have hhead : ∀ c ∈ (before ++ sign :: after).head?, ¬ IsSign c := by
    cases before with
    | nil => exact absurd rfl hne
    | cons first rest =>
      rintro c ⟨⟩
      exact hbefore _ List.mem_cons_self
  have hmem : sign ∈ before ++ sign :: after := by simp
  rw [read?, splitSign_of_unsigned hhead] at h
  dsimp only at h
  cases hdecimal : readUnsigned? false (before ++ sign :: after) with
  | some decimal =>
    rcases of_readUnsigned?_eq_some hdecimal with
      hnone | ⟨front, digits, sign', heq, hfront, hsign', hdigits⟩
    · exact absurd hsign (hnone _ hmem)
    · rw [eq_of_append_sign_eq hbefore hfront hsign hsign' heq]
      exact hdigits
  | none =>
    rw [hdecimal] at h
    obtain ⟨word, hword, -⟩ := Option.map_eq_some_iff.1 h
    exact absurd hsign (not_isSign_of_readWord?_eq_some hword _ hmem)

end Number

namespace Expr

open Number (IsSign digitsValue)

/-! ## Runs -/

/-- A token with the integer, if it is one, as the double of the same value. -/
def Token.asFloat : Token → Token
  | .int n => .float (Float.ofInt n)
  | token => token

/-- A run with the fraction, if it is digits only. -/
def withFraction (run : Text) : Text := if run.IsDigits then run ++ fraction else run

/-- **A hexadecimal integer.** -/
def isHex : Text → Bool
  | '0' :: 'x' :: digits => (Text.intWithin? 16 (Nat.pow 2 63) digits).isSome
  | _ => false

variable {run : Text}

/-- An integer that is not hexadecimal and has no sign is digits that fit into 64 bits. -/
theorem readInteger?_of_unsigned (hunsigned : ∀ c ∈ run.head?, ¬ IsSign c)
    (hdecimal : ∀ digits, run ≠ '0' :: 'x' :: digits) :
    readInteger? run =
      ((Text.digits? 10 run).filter (· < Nat.pow 2 63)).map fun n : Nat => (n : Int) := by
  rw [readInteger?.eq_def]
  split
  · rename_i digits
    exact absurd rfl (hdecimal digits)
  · rw [Text.intWithin?.eq_def]
    split
    · exact absurd (.inr rfl) (hunsigned '-' rfl)
    · exact absurd (.inl rfl) (hunsigned '+' rfl)
    · cases (Text.digits? 10 run).filter (· < Nat.pow 2 63) <;> rfl

/-- Digits do not begin as hexadecimal integers do, whatever is inserted after them. -/
theorem ne_hexadecimal (h : run.IsDigits) (rest : Text) (hrest : ∀ c ∈ rest.head?, c ≠ 'x')
    (digits : Text) : run ++ rest ≠ '0' :: 'x' :: digits := by
  obtain ⟨hne, hall⟩ := h
  intro heq
  match run with
  | [] => exact hne rfl
  | [_] =>
    obtain ⟨-, rfl⟩ := List.cons.inj heq
    exact hrest 'x' rfl rfl
  | _ :: second :: _ =>
    have hx : 'x'.isDigit = true := by
      obtain ⟨rfl, -⟩ := List.cons.inj (List.cons.inj heq).2
      exact List.all_eq_true.1 hall 'x' (by simp)
    exact absurd hx (by decide)

/-- **Digits are an integer if they fit** into 64 bits. -/
theorem readInteger?_of_isDigits (h : run.IsDigits) :
    readInteger? run = if digitsValue run < Nat.pow 2 63 then some (digitsValue run : Int)
      else none := by
  have hunsigned := Number.unsigned_of_isDigits h []
  have hdecimal := ne_hexadecimal h [] nofun
  rw [List.append_nil] at hunsigned hdecimal
  rw [readInteger?_of_unsigned hunsigned hdecimal, Number.digits?_eq_some_iff.2 ⟨h, rfl⟩,
    Option.filter_some]
  split
  · rename_i hlt
    exact (if_pos (of_decide_eq_true hlt)).symm
  · rename_i hlt
    exact (if_neg (mt decide_eq_true hlt)).symm

/-- With a fraction they are none. -/
theorem readInteger?_fraction (h : run.IsDigits) : readInteger? (run ++ fraction) = none := by
  have hnone : Text.digits? 10 (run ++ fraction) = none := by
    refine Option.eq_none_iff_forall_ne_some.2 fun value hvalue => ?_
    have hall := (Number.digits?_eq_some_iff.1 hvalue).1.2
    rw [List.all_append, Bool.and_eq_true] at hall
    exact absurd hall.2 (by decide)
  rw [readInteger?_of_unsigned (Number.unsigned_of_isDigits h _)
    (ne_hexadecimal h _ (by rintro c ⟨⟩; decide)), hnone]
  rfl

/-- **An integer without a sign is digits, or it is hexadecimal.** -/
theorem of_readInteger?_eq_some (hunsigned : ∀ c ∈ run.head?, ¬ IsSign c) {n : Int}
    (h : readInteger? run = some n) : run.IsDigits ∨ isHex run = true := by
  by_cases hdecimal : ∀ digits, run ≠ '0' :: 'x' :: digits
  · rw [readInteger?_of_unsigned hunsigned hdecimal] at h
    obtain ⟨value, hvalue, -⟩ := Option.map_eq_some_iff.1 h
    exact .inl (Number.digits?_eq_some_iff.1 (Option.filter_eq_some_iff.1 hvalue).1).1
  · push Not at hdecimal
    obtain ⟨digits, rfl⟩ := hdecimal
    exact .inr (Option.isSome_of_eq_some h)

/-- A hexadecimal integer is one, and not digits. -/
theorem of_isHex (h : isHex run = true) :
    ¬ run.IsDigits ∧ ∃ n, readInteger? run = some n := by
  rw [isHex.eq_def] at h
  split at h
  · rename_i digits
    refine ⟨fun hdigits => ?_, Option.isSome_iff_exists.1 h⟩
    exact ne_hexadecimal hdigits [] nofun digits (List.append_nil _)
  · cases h

/-- Digits with a fraction are a double. -/
theorem runToken?_fraction (h : run.IsDigits) : runToken? (run ++ fraction) =
    some (.float (Number.Scientific.toFloat ⟨false, digitsValue run, 0⟩)) := by
  rw [runToken?, readInteger?_fraction h, Number.read?_fraction h, Number.read?_digits h]

/-- **The fraction makes doubles of the integers** that are not hexadecimal, and leaves all other
runs what they are. -/
theorem runToken?_withFraction (hunsigned : ∀ c ∈ run.head?, ¬ IsSign c)
    (hhex : isHex run = false) :
    runToken? (withFraction run) = (runToken? run).map Token.asFloat := by
  rw [withFraction]
  split
  · rename_i hdigits
    rw [runToken?_fraction hdigits, runToken?, readInteger?_of_isDigits hdigits,
      Number.read?_digits hdigits]
    by_cases hlt : digitsValue run < Nat.pow 2 63
    · have hfloat := Number.toFloat_eq_ofNat (hlt.trans (by decide))
      rw [if_pos hlt, hfloat]
      rfl
    · rw [if_neg hlt]
      rfl
  · rename_i hdigits
    have hnone : readInteger? run = none := by
      refine Option.eq_none_iff_forall_ne_some.2 fun n hn => ?_
      rcases of_readInteger?_eq_some hunsigned hn with hdigits' | hhex'
      · exact hdigits hdigits'
      · rw [hhex] at hhex'
        cases hhex'
    rw [runToken?, hnone]
    dsimp only
    split
    · rfl
    · split
      · rfl
      · split <;> rfl

end Expr

end MapScript
