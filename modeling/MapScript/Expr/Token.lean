/-
The tokens of expressions.

Reading goes in two steps. First the characters are put together to pieces: string
literals, the marks of one character, blanks, and runs of all other characters.
Comments leave nothing behind, so that two runs with only a comment between them are
one. Then the pieces are put together to tokens: marks that stand next to each other
may form one operator, and a run is a number, a truth value or a name.
-/
import MapScript.Text.Blank
import MapScript.Number.Reading
import MapScript.Expr.Error

set_option autoImplicit false

namespace MapScript.Expr

/-! ## Pieces -/

/-- A piece of an expression. -/
inductive Piece where
  | quoted (text : Text)
  | mark (c : Char)
  | blank
  | run (text : Text)
deriving Repr, DecidableEq

/-- The text of a piece inside a message or a number. -/
def Piece.text : Piece → Text
  | .quoted text => Text.quoted text
  | .mark c => [c]
  | .blank => [' ']
  | .run text => text

/-- Whether the character is a piece of its own. -/
def isMark (c : Char) : Bool := "+-*/%^(),;=!><&|".toList.contains c

/-- What a reader of characters is inside of. -/
inductive Context where
  | code
  /-- In a string literal, with the characters read so far, last one first. -/
  | string (read : Text)
  | lineComment
  | blockComment
deriving Repr

/-- A character before pieces: it joins a run that comes first. -/
def Piece.consRun (c : Char) : List Piece → List Piece
  | .run text :: pieces => .run (c :: text) :: pieces
  | pieces => .run [c] :: pieces

/-- The pieces of a text that is read on in the given context. -/
def piecesIn : Context → Text → Except Error (List Piece)
  | .code, [] => .ok []
  | .lineComment, [] => .ok []
  | .blockComment, [] => .error .unclosedComment
  | .string _, [] => .error .unclosedQuote
  | .code, '/' :: '/' :: rest => piecesIn .lineComment rest
  | .code, '/' :: '*' :: rest => piecesIn .blockComment rest
  | .code, c :: rest =>
    if c = '"' then piecesIn (.string []) rest
    else if isMark c then (piecesIn .code rest).map (.mark c :: ·)
    else if Text.isBlank c then (piecesIn .code rest).map (.blank :: ·)
    else (piecesIn .code rest).map (Piece.consRun c)
  | .string _, ['\\'] => .error (.illegalEscape none)
  | .string read, '\\' :: c :: rest =>
    if c = '"' ∨ c = '\\' then piecesIn (.string (c :: read)) rest
    else .error (.illegalEscape (some c))
  | .string read, c :: rest =>
    if c = '"' then (piecesIn .code rest).map (.quoted read.reverse :: ·)
    else piecesIn (.string (c :: read)) rest
  | .lineComment, c :: rest =>
    if c = '\n' then piecesIn .code rest else piecesIn .lineComment rest
  | .blockComment, '*' :: '/' :: rest => piecesIn .code rest
  | .blockComment, _ :: rest => piecesIn .blockComment rest

/-- The pieces of an expression. -/
def pieces (text : Text) : Except Error (List Piece) := piecesIn .code text

/-! ## Tokens -/

/-- The signs of operators with two operands, other than assignments. -/
inductive Sign where
  | plus
  | minus
  | star
  | slash
  | percent
  | hat
  | eq
  | ne
  | gt
  | lt
  | ge
  | le
  | and
  | or
deriving Repr, DecidableEq

/-- **A token.** -/
inductive Token where
  | sign (sign : Sign)
  | not
  | openParen
  | closeParen
  | comma
  | semicolon
  /-- The plain assignment. -/
  | assign
  /-- An assignment that is joined with an operator. -/
  | assignWith (sign : Sign)
  | name (text : Text)
  | float (x : Float)
  | int (n : Int)
  | boolean (b : Bool)
  | string (text : Text)

/-- The integer that a run writes: decimal, or hexadecimal after `0x`. -/
def readInteger? : Text → Option Int
  | '0' :: 'x' :: rest => Text.intWithin? 16 (Nat.pow 2 63) rest
  | text => Text.intWithin? 10 (Nat.pow 2 63) text

/-- The token that a run forms on its own, unless it is a name. -/
def runToken? (text : Text) : Option Token :=
  match readInteger? text with
  | some n => some (.int n)
  | none =>
    match Number.read? text with
    | some x => some (.float x)
    | none =>
      if text = "true".toList then some (.boolean true)
      else if text = "false".toList then some (.boolean false)
      else none

/-- The token of a mark that no other mark follows up. -/
def markToken (c : Char) (rest : List Piece) : Except Error Token :=
  match c with
  | '+' => .ok (.sign .plus)
  | '-' => .ok (.sign .minus)
  | '*' => .ok (.sign .star)
  | '/' => .ok (.sign .slash)
  | '%' => .ok (.sign .percent)
  | '^' => .ok (.sign .hat)
  | '>' => .ok (.sign .gt)
  | '<' => .ok (.sign .lt)
  | '!' => .ok .not
  | '=' => .ok .assign
  | '(' => .ok .openParen
  | ')' => .ok .closeParen
  | ',' => .ok .comma
  | ';' => .ok .semicolon
  | _ => .error (.loneConnective c (rest.head?.map Piece.text))

/-- The operator that a mark forms with the equals sign after it. -/
def markWithEquals? : Char → Option Token
  | '+' => some (.assignWith .plus)
  | '-' => some (.assignWith .minus)
  | '*' => some (.assignWith .star)
  | '/' => some (.assignWith .slash)
  | '%' => some (.assignWith .percent)
  | '^' => some (.assignWith .hat)
  | '=' => some (.sign .eq)
  | '!' => some (.sign .ne)
  | '>' => some (.sign .ge)
  | '<' => some (.sign .le)
  | _ => none

/-- The tokens of a list of pieces. A run that is no literal on its own may be the
beginning of a number whose power of ten has a sign, such as `1e` in `1e-3`. -/
def tokensOf : List Piece → Except Error (List Token)
  | [] => .ok []
  | .blank :: rest => tokensOf rest
  | .quoted text :: rest => (tokensOf rest).map (.string text :: ·)
  | .mark '&' :: .mark '&' :: .mark '=' :: rest =>
    (tokensOf rest).map (.assignWith .and :: ·)
  | .mark '&' :: .mark '&' :: rest => (tokensOf rest).map (.sign .and :: ·)
  | .mark '|' :: .mark '|' :: .mark '=' :: rest =>
    (tokensOf rest).map (.assignWith .or :: ·)
  | .mark '|' :: .mark '|' :: rest => (tokensOf rest).map (.sign .or :: ·)
  | .mark c :: .mark '=' :: rest =>
    match markWithEquals? c with
    | some token => (tokensOf rest).map (token :: ·)
    | none =>
      match markToken c (.mark '=' :: rest) with
      | .ok token => (tokensOf (.mark '=' :: rest)).map (token :: ·)
      | .error error => .error error
  | .mark c :: rest =>
    match markToken c rest with
    | .ok token => (tokensOf rest).map (token :: ·)
    | .error error => .error error
  | .run text :: .mark c :: third :: rest =>
    match runToken? text with
    | some token => (tokensOf (.mark c :: third :: rest)).map (token :: ·)
    | none =>
      let joined? :=
        if c = '+' ∨ c = '-' then Number.read? (text ++ [c] ++ third.text) else none
      match joined? with
      | some x => (tokensOf rest).map (.float x :: ·)
      | none => (tokensOf (.mark c :: third :: rest)).map (.name text :: ·)
  | .run text :: rest =>
    (tokensOf rest).map ((runToken? text).getD (.name text) :: ·)

/-- **The tokens of an expression.** -/
def tokenize (text : Text) : Except Error (List Token) := do
  tokensOf (← pieces text)

/-! ## Neighbours -/

/-- Whether an operand may begin with the token. -/
def Token.startsOperand : Token → Bool
  | .openParen | .name _ | .float _ | .int _ | .boolean _ | .string _ => true
  | _ => false

/-- Whether an operand may end with the token. -/
def Token.endsOperand : Token → Bool
  | .closeParen | .name _ | .float _ | .int _ | .boolean _ | .string _ => true
  | _ => false

/-- Whether the token assigns. -/
def Token.assigns : Token → Bool
  | .assign | .assignWith _ => true
  | _ => false

end MapScript.Expr
