/-
Texts as lists of characters, and the ways a script cuts them up.

A script is rewritten by finding a piece of text, cutting around it and joining
the parts again. Each search here therefore answers with the parts, and not with
a position: what stands before the piece, the piece as it is written, and what
stands after it. That the parts rebuild the text is then a statement about `++`.

Positions are still reported to callers that ask for them. They count the bytes
of the UTF-8 form, so a position is the byte size of the part before it.
-/
set_option autoImplicit false

namespace MapScript

/-- **A text** is the list of its characters. -/
abbrev Text := List Char

namespace Text

/-! ## Size in bytes -/

/-- The number of bytes of the UTF-8 form. -/
def byteSize : Text → Nat
  | [] => 0
  | c :: rest => c.utf8Size + byteSize rest

/-- What is left after the first `n` bytes; a character that is cut into goes whole. -/
def dropBytes : Nat → Text → Text
  | 0, text => text
  | _ + 1, [] => []
  | n + 1, c :: rest => dropBytes (n + 1 - c.utf8Size) rest

/-- The first `n` bytes; a character that is cut into is kept whole. -/
def takeBytes : Nat → Text → Text
  | 0, _ => []
  | _ + 1, [] => []
  | n + 1, c :: rest => c :: takeBytes (n + 1 - c.utf8Size) rest

/-- The order of texts: the first differing character decides, and a text comes
after each of its beginnings. It is the order of the UTF-8 bytes as well. -/
def order : Text → Text → Ordering
  | [], [] => .eq
  | [], _ :: _ => .lt
  | _ :: _, [] => .gt
  | a :: as, b :: bs =>
    if a.toNat < b.toNat then .lt
    else if b.toNat < a.toNat then .gt
    else order as bs

/-! ## Finding a piece of text -/

/-- One occurrence of a piece of text: what stands before it, the piece as
written, and what stands after it. -/
structure Occurrence where
  before : Text
  piece : Text
  after : Text
deriving Repr, DecidableEq

/-- The text an occurrence was found in. -/
def Occurrence.whole (o : Occurrence) : Text := o.before ++ o.piece ++ o.after

/-- The text with `replacement` in the place of the piece. -/
def Occurrence.replace (o : Occurrence) (replacement : Text) : Text :=
  o.before ++ replacement ++ o.after

/-- `matchStart? fold pattern text` splits `text` after a beginning that reads as
`pattern` once `fold` is applied to each of its characters. -/
def matchStart? (fold : Char → Char) : Text → Text → Option (Text × Text)
  | [], text => some ([], text)
  | _ :: _, [] => none
  | p :: pattern, c :: text =>
    if fold c = p then
      (matchStart? fold pattern text).map fun (piece, after) => (c :: piece, after)
    else none

/-- Nothing is lost by splitting after a beginning. -/
theorem append_of_matchStart? {fold : Char → Char} {pattern text piece after : Text}
    (h : matchStart? fold pattern text = some (piece, after)) : piece ++ after = text := by
  induction pattern generalizing text piece with
  | nil =>
    simp only [matchStart?, Option.some.injEq, Prod.mk.injEq] at h
    simp [← h.1, ← h.2]
  | cons p pattern ih =>
    match text with
    | [] => simp [matchStart?] at h
    | c :: text =>
      simp only [matchStart?] at h
      split at h
      · obtain ⟨⟨piece', after'⟩, hmatch, heq⟩ := Option.map_eq_some_iff.1 h
        simp only [Prod.mk.injEq] at heq
        obtain ⟨rfl, rfl⟩ := heq
        simp [ih hmatch]
      · simp at h

/-- **The first occurrence** of `pattern`, where characters of the text are
folded before they are compared. -/
def findFolded? (fold : Char → Char) (pattern : Text) : Text → Option Occurrence
  | [] => (matchStart? fold pattern []).map fun (piece, after) => ⟨[], piece, after⟩
  | c :: rest =>
    match matchStart? fold pattern (c :: rest) with
    | some (piece, after) => some ⟨[], piece, after⟩
    | none => (findFolded? fold pattern rest).map fun o => { o with before := c :: o.before }

/-- An occurrence is one in the text that was searched. -/
theorem whole_of_findFolded? {fold : Char → Char} {pattern text : Text} {o : Occurrence}
    (h : findFolded? fold pattern text = some o) : o.whole = text := by
  induction text generalizing o with
  | nil =>
    obtain ⟨⟨piece, after⟩, hmatch, rfl⟩ := Option.map_eq_some_iff.1 h
    simpa [Occurrence.whole] using append_of_matchStart? hmatch
  | cons c rest ih =>
    simp only [findFolded?] at h
    split at h
    · rename_i piece after hmatch
      obtain rfl := Option.some.inj h
      simpa [Occurrence.whole] using append_of_matchStart? hmatch
    · obtain ⟨later, hlater, rfl⟩ := Option.map_eq_some_iff.1 h
      simpa [Occurrence.whole] using ih hlater

/-- The first occurrence of `pattern`, character for character. -/
def find? (pattern text : Text) : Option Occurrence := findFolded? id pattern text

/-- Replaces every occurrence of a pattern that is not empty, from left to right;
the replacement is not searched again. `fuel` bounds the number of replacements,
and the length of the text always suffices. -/
def replaceAllWithin (pattern replacement : Text) : Nat → Text → Text
  | 0, text => text
  | fuel + 1, text =>
    if pattern = [] then text
    else
      match find? pattern text with
      | none => text
      | some o => o.before ++ replacement ++ replaceAllWithin pattern replacement fuel o.after

/-- Replaces every occurrence of a pattern that is not empty, from left to right. -/
def replaceAll (pattern replacement text : Text) : Text :=
  replaceAllWithin pattern replacement text.length text

/-! ## Cutting at a character -/

/-- The text before the first `separator` and the text after it. -/
def cutFirst (separator : Char) : Text → Option (Text × Text)
  | [] => none
  | c :: rest =>
    if c = separator then some ([], rest)
    else (cutFirst separator rest).map fun (before, after) => (c :: before, after)

/-- The text before the last `separator` and the text after it. -/
def cutLast (separator : Char) : Text → Option (Text × Text)
  | [] => none
  | c :: rest =>
    match cutLast separator rest with
    | some (before, after) => some (c :: before, after)
    | none => if c = separator then some ([], rest) else none

/-- The pieces between the separators; one more than there are separators. -/
def splitAt (separator : Char) : Text → List Text
  | [] => [[]]
  | c :: rest =>
    if c = separator then [] :: splitAt separator rest
    else
      match splitAt separator rest with
      | [] => [[c]]
      | piece :: pieces => (c :: piece) :: pieces

/-- The texts with `separator` between neighbours. -/
def join (separator : Text) (texts : List Text) : Text := separator.intercalate texts

/-- **The lines of a text.** A line ends at a line feed, and a carriage return
directly before that line feed belongs to the ending. A last line need not be
ended, and nothing follows a last line feed. -/
def lines : Text → List Text
  | [] => []
  | '\r' :: '\n' :: rest => [] :: lines rest
  | '\n' :: rest => [] :: lines rest
  | c :: rest =>
    match lines rest with
    | [] => [[c]]
    | line :: more => (c :: line) :: more

end Text

/-! ## Whole numbers as texts -/

/-- A natural number in decimal. -/
def Text.ofNat (n : Nat) : Text := Nat.toDigits 10 n

/-- An integer in decimal, with a minus sign when it is negative. -/
def Text.ofInt (i : Int) : Text :=
  if i < 0 then '-' :: Text.ofNat i.natAbs else Text.ofNat i.natAbs

namespace Text

/-- The value of a digit of a base up to sixteen; letters of both cases count. -/
def digitValue? (base : Nat) (c : Char) : Option Nat :=
  let value? : Option Nat :=
    if '0' ≤ c ∧ c ≤ '9' then some (c.toNat - '0'.toNat)
    else if 'a' ≤ c ∧ c ≤ 'f' then some (c.toNat - 'a'.toNat + 10)
    else if 'A' ≤ c ∧ c ≤ 'F' then some (c.toNat - 'A'.toNat + 10)
    else none
  value?.filter (· < base)

/-- The value of a list of digits that continues the number `accumulated`. -/
def digitsFrom? (base : Nat) (accumulated : Nat) : Text → Option Nat
  | [] => some accumulated
  | c :: rest =>
    match digitValue? base c with
    | some d => digitsFrom? base (accumulated * base + d) rest
    | none => none

/-- The number that one or more digits write. -/
def digits? (base : Nat) : Text → Option Nat
  | [] => none
  | c :: rest => digitsFrom? base 0 (c :: rest)

/-- A natural number below `bound`: digits after an optional plus sign. -/
def natBelow? (bound : Nat) (text : Text) : Option Nat :=
  let digits := match text with
    | '+' :: rest => rest
    | _ => text
  (digits? 10 digits).filter (· < bound)

/-- An integer from `-bound` up to but not including `bound`: digits after an
optional sign. -/
def intWithin? (base bound : Nat) : Text → Option Int
  | '-' :: rest => ((digits? base rest).filter (· ≤ bound)).map fun n => -(n : Int)
  | '+' :: rest => ((digits? base rest).filter (· < bound)).map fun n => (n : Int)
  | text => ((digits? base text).filter (· < bound)).map fun n => (n : Int)

end Text

end MapScript
