/-
Bracketed spans of a text.

A span is a text taken apart around a pair of brackets: what stands before it, the
name that leads to it when it is a call, what is inside, and what stands after it. A
backslash escapes the character after it, and an escaped bracket neither opens nor
closes anything.

There are two scans. One looks for the first opening bracket that is not escaped. The
other starts at an opening bracket and counts brackets up to the one that closes it.
Both read their text once, from left to right, and know whether the character before
was an escaping backslash.
-/
import MapScript.Error

set_option autoImplicit false

namespace MapScript

/-- **A text around its first pair of brackets.** Only a call has a text in `lead`: the
name as it is written. -/
structure Span where
  before : Text
  lead : Text
  inside : Text
  after : Text
  opening : Char
  closing : Char
deriving Repr, DecidableEq

namespace Span

/-! ## Putting texts together again -/

/-- The text with `replacement` in the place of the name and the brackets. -/
def splice (span : Span) (replacement : Text) : Text :=
  span.before ++ replacement ++ span.after

/-- The text with `inner` between the brackets. -/
def rewrap (span : Span) (inner : Text) : Text :=
  span.before ++ span.lead ++ span.opening :: inner ++ span.closing :: span.after

/-! ## Scanning -/

/-- Puts a character before the first of two texts. -/
def consFirst (c : Char) : Text × Text → Text × Text
  | (first, second) => (c :: first, second)

/-- **The text before the first `ch` that is not escaped,** and the text from it on. The
backslash itself is never found: it escapes. -/
def splitUnescaped (ch : Char) : (escaped : Bool) → Text → Option (Text × Text)
  | _, [] => none
  | true, c :: rest => (splitUnescaped ch false rest).map (consFirst c)
  | false, c :: rest =>
    if c = '\\' then (splitUnescaped ch true rest).map (consFirst c)
    else if c = ch then some ([], c :: rest)
    else (splitUnescaped ch false rest).map (consFirst c)

/-- The two parts of a split rebuild the text, and the second begins with `ch`. -/
theorem splitUnescaped_eq_some {ch : Char} {escaped : Bool} {text before rest : Text}
    (h : splitUnescaped ch escaped text = some (before, rest)) :
    before ++ rest = text ∧ rest.head? = some ch := by
  induction text generalizing escaped before with
  | nil => simp [splitUnescaped] at h
  | cons c text ih =>
    -- all branches but the one that stops put `c` before a later split
    have later {e : Bool}
        (hs : (splitUnescaped ch e text).map (consFirst c) = some (before, rest)) :
        before ++ rest = c :: text ∧ rest.head? = some ch := by
      obtain ⟨⟨b, r⟩, hsplit, heq⟩ := Option.map_eq_some_iff.1 hs
      simp only [consFirst, Prod.mk.injEq] at heq
      obtain ⟨rfl, rfl⟩ := heq
      simpa using ih hsplit
    cases escaped with
    | true => exact later (by simpa [splitUnescaped] using h)
    | false =>
      simp only [splitUnescaped] at h
      split at h
      · exact later h
      · split at h
        · rename_i hc
          simp only [Option.some.injEq, Prod.mk.injEq] at h
          simp [← h.1, ← h.2, hc]
        · exact later h

/-- Whether the text has a `ch` that is not escaped. -/
def hasUnescaped (ch : Char) (text : Text) : Bool := (splitUnescaped ch false text).isSome

/-- **The text up to the bracket that closes the outermost open one,** and the text
after that bracket, where `depth` brackets are open. A closing bracket closes nothing
where none is open. -/
def splitClosing (opening closing : Char) :
    (escaped : Bool) → (depth : Nat) → Text → Option (Text × Text)
  | _, _, [] => none
  | true, depth, c :: rest => (splitClosing opening closing false depth rest).map (consFirst c)
  | false, depth, c :: rest =>
    if c = '\\' then (splitClosing opening closing true depth rest).map (consFirst c)
    else if c = opening then
      (splitClosing opening closing false (depth + 1) rest).map (consFirst c)
    else if c = closing then
      match depth with
      | 0 => (splitClosing opening closing false 0 rest).map (consFirst c)
      | 1 => some ([], rest)
      | depth + 2 => (splitClosing opening closing false (depth + 1) rest).map (consFirst c)
    else (splitClosing opening closing false depth rest).map (consFirst c)

/-- The two parts of a split rebuild the text around a closing bracket. -/
theorem splitClosing_eq_some {opening closing : Char} {escaped : Bool} {depth : Nat}
    {text part after : Text}
    (h : splitClosing opening closing escaped depth text = some (part, after)) :
    part ++ closing :: after = text := by
  induction text generalizing escaped depth part with
  | nil => simp [splitClosing] at h
  | cons c text ih =>
    have later {e : Bool} {d : Nat}
        (hs : (splitClosing opening closing e d text).map (consFirst c) = some (part, after)) :
        part ++ closing :: after = c :: text := by
      obtain ⟨⟨p, a⟩, hsplit, heq⟩ := Option.map_eq_some_iff.1 hs
      simp only [consFirst, Prod.mk.injEq] at heq
      obtain ⟨rfl, rfl⟩ := heq
      simpa using ih hsplit
    cases escaped with
    | true => exact later (by simpa [splitClosing] using h)
    | false =>
      simp only [splitClosing] at h
      split at h
      · exact later h
      · split at h
        · exact later h
        · split at h
          · rename_i hc
            split at h
            · exact later h
            · simp only [Option.some.injEq, Prod.mk.injEq] at h
              simp [← h.1, ← h.2, hc]
            · exact later h
          · exact later h

/-! ## Positions -/

/-- The byte at which the first `ch` that is not escaped stands, at or after the byte
`start`. Escapes are counted from there. -/
def findUnescaped? (text : Text) (ch : Char) (start : Nat) : Option Nat :=
  (splitUnescaped ch false (text.dropBytes start)).map fun (before, _) =>
    start + before.byteSize

/-- **The first call of a name:** the name in any ASCII case with the opening bracket
directly after it. The empty name is called nowhere. -/
def findCall? (text name : Text) (opening : Char) : Option Text.Occurrence :=
  if name = [] then none
  else Text.findFolded? Char.toLower (name.map Char.toLower ++ [opening]) text

/-! ## Focusing -/

/-- The span whose opening bracket is the first character of `rest`. -/
def close (text before lead rest : Text) (opening closing : Char) : Except ScriptError Span :=
  match splitClosing opening closing false 0 rest with
  | some (part, after) =>
    .ok ⟨before, lead, part.drop 1, after, opening, closing⟩
  | none => .error (.malformedBracket opening closing text)

/-- **The span of the first opening bracket** that is not escaped. -/
def focusFirst (text : Text) (opening closing : Char) : Except ScriptError Span :=
  match splitUnescaped opening false text with
  | some (before, rest) => close text before [] rest opening closing
  | none => .error (.malformedBracket opening closing text)

/-- **The span of the first call** of a name. -/
def focusCall (text name : Text) (opening closing : Char) : Except ScriptError Span :=
  match findCall? text name opening with
  | some call =>
    close text call.before (call.piece.take name.length)
      (call.piece.drop name.length ++ call.after) opening closing
  | none => .error (.malformedBracket opening closing text)

end Span

end MapScript
