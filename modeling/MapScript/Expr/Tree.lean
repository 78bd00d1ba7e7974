/-
Expression trees and how they grow.

A tree is built from the tokens one at a time. Each token becomes a node, and the
node is inserted at the right edge of the tree: it goes down along the last operands
as long as they bind less tightly than it does, and takes the operand where it stops
as its own first one. Parentheses and sequences (the comma and the semicolon) keep a
stack of unfinished trees.

Operands are stored last one first, because the last one is where a tree grows.
-/
import MapScript.Expr.Token

set_option autoImplicit false

namespace MapScript.Expr

/-! ## Operators -/

/-- **The operator of a node.** -/
inductive Operator where
  /-- A parenthesis or the whole expression. -/
  | group
  | sign (sign : Sign)
  | negate
  | not
  | assign
  | assignWith
  | tuple
  | chain
  | constant (value : Value)
  /-- A name that is assigned to. -/
  | target (name : Text)
  | lookup (name : Text)
  | call (name : Text)

namespace Operator

/-- How tightly the operator binds. -/
def precedence : Operator → Nat
  | group | constant _ | target _ | lookup _ => 200
  | call _ => 190
  | sign .hat => 120
  | negate | not => 110
  | sign .star | sign .slash | sign .percent => 100
  | sign .plus | sign .minus => 95
  | sign .and => 75
  | sign .or => 70
  | sign _ => 80
  | assign | assignWith => 50
  | tuple => 40
  | chain => 0

/-- The number of operands; sequences have any number. -/
def arity : Operator → Option Nat
  | group | negate | not | call _ => some 1
  | sign _ | assign | assignWith => some 2
  | constant _ | target _ | lookup _ => some 0
  | tuple | chain => none

/-- Whether equal neighbours are grouped from the left. -/
def groupsLeft : Operator → Bool
  | assign | call _ => false
  | _ => true

/-- Whether the node is a parenthesis or the whole expression. -/
def isGroup : Operator → Bool
  | group => true
  | _ => false

/-- Whether the operator stands before its only operand. -/
def isUnary (op : Operator) : Bool := op.arity == some 1 && !op.isGroup

/-- Whether the operator has no operands. -/
def isLeaf (op : Operator) : Bool := op.arity == some 0

/-- Whether the operator is the comma or the semicolon. -/
def isSequence : Operator → Bool
  | tuple | chain => true
  | _ => false

/-- Whether both operators are commas or both are semicolons. -/
def sameSequence : Operator → Operator → Bool
  | tuple, tuple => true
  | chain, chain => true
  | _, _ => false

/-- Whether `new` belongs below `op`: it binds more tightly, it stands before its
operand, or the two are equal and are grouped from the right. -/
def admits (op new : Operator) : Bool :=
  decide (op.precedence < new.precedence) || new.isUnary ||
    (op.precedence == new.precedence && !op.groupsLeft && !new.groupsLeft)

end Operator

/-! ## Nodes -/

/-- **A tree:** an operator and its operands, last one first. -/
inductive Node where
  | mk (operator : Operator) (operands : List Node)

namespace Node

/-- The operator of the root. -/
def operator : Node → Operator
  | mk operator _ => operator

/-- The operands of the root, last one first. -/
def operands : Node → List Node
  | mk _ operands => operands

/-- A node without operands. -/
def leaf (operator : Operator) : Node := mk operator []

/-- An unfinished parenthesis. -/
def emptyGroup : Node := leaf .group

/-- The node with one more operand. -/
def push (node operand : Node) : Node := mk node.operator (operand :: node.operands)

/-- Whether the node has more operands than its operator takes. -/
def isOverfull (node : Node) : Bool :=
  match node.operator.arity with
  | some n => decide (n < node.operands.length)
  | none => false

/-- Puts `new` in the place of the last operand, which becomes its first one. -/
def rotate (operator : Operator) (last : Node) (earlier : List Node) (new : Node) :
    Except Error Node :=
  if new.operator.isLeaf then .error .appendedToOperand
  else if operator.isGroup && (!earlier.isEmpty || new.operator.isGroup) then
    .error .missingOperator
  else if new.operator.isGroup && (!new.operands.isEmpty || last.operator.isGroup) then
    .error .missingOperator
  else .ok (mk operator (new.push last :: earlier))

/-- **Inserts a node at the right edge of a tree.** `atRoot` says that the tree is not
itself an operand, and then nothing is refused for binding too loosely. -/
def insert (new : Node) (atRoot : Bool) : Node → Except Error Node
  | mk operator operands =>
    if !(atRoot || operator.admits new.operator) then .error .precedenceViolation
    else if operator.isLeaf then .error .appendedToOperand
    else if operator.arity = some operands.length then
      match operands with
      | [] => .ok (mk operator [new])
      | last :: earlier =>
        if last.operator.admits new.operator then
          (insert new false last).map fun grown => mk operator (grown :: earlier)
        else rotate operator last earlier new
    else .ok (mk operator (new :: operands))

end Node

/-! ## Unfinished trees -/

/-- The trees that are not finished yet, innermost first. -/
abbrev Forest := List Node

namespace Forest

/-- Ends the sequences down to the tree that `goal`, a sequence that binds less
tightly, takes as its first member. -/
def collapseTo (goal : Operator) (root : Node) : Forest → Except Error (Node × Forest)
  | [] => .error .unmatchedClose
  | outer :: rest =>
    if goal.precedence < outer.operator.precedence then
      collapseTo goal (outer.push root) rest
    else .ok (root, outer :: rest)

/-- Leaves `root`, with which the collapse ends, on top of the others. -/
def settle (root : Node) (outer : Forest) : Except Error Forest :=
  if root.isOverfull then .error .missingOperator else .ok (root :: outer)

/-- Ends the sequences between `root` and the innermost parenthesis. -/
def collapseFrom (root : Node) : Forest → Except Error Forest
  | [] => if root.operator.isGroup then settle root [] else .error .unmatchedClose
  | next :: rest =>
    if root.operator.isGroup then settle root (next :: rest)
    else if root.operator.isSequence then collapseFrom (next.push root) rest
    else settle root (next :: rest)

/-- Ends the sequences of the innermost parenthesis. -/
def collapse : Forest → Except Error Forest
  | [] => .error .unmatchedClose
  | root :: rest => collapseFrom root rest

/-- Adds the node of a comma or a semicolon. -/
def addSequence (node root : Node) (rest : Forest) : Except Error Forest :=
  if root.operator.sameSequence node.operator then
    .ok (root.push Node.emptyGroup :: rest)
  else if root.operator.isGroup then
    .ok ((node.push root).push Node.emptyGroup :: Node.emptyGroup :: rest)
  else if root.operator.precedence < node.operator.precedence then
    match root.operands with
    | last :: earlier =>
      .ok ((node.push last).push Node.emptyGroup :: .mk root.operator earlier :: rest)
    | [] => .ok (root :: rest)
  else
    (collapseTo node.operator root rest).map fun (first, rest) => node.push first :: rest

/-- **Adds a node to the innermost tree.** No tree is left when a parenthesis has
closed the whole expression, and then that parenthesis has no partner. -/
def add (node : Node) : Forest → Except Error Forest
  | [] => .error .unmatchedClose
  | root :: rest =>
    if node.operator.isSequence then addSequence node root rest
    else if root.operator.isSequence then
      match root.operands with
      | last :: earlier =>
        (Node.insert node true last).map fun grown => .mk root.operator (grown :: earlier) :: rest
      | [] => .ok (root :: rest)
    else (Node.insert node true root).map (· :: rest)

end Forest

/-! ## From tokens to a tree -/

/-- The operator that a name stands for; the token after it decides. -/
def nameOperator (name : Text) (next : Option Token) : Operator :=
  match next with
  | some token =>
    if token.assigns then .target name
    else if token.startsOperand then .call name
    else .lookup name
  | none => .lookup name

/-- The operator that a token other than a parenthesis stands for. `afterOperand`
tells a difference from a change of sign. -/
def Token.operator? (afterOperand : Bool) (next : Option Token) : Token → Option Operator
  | .sign .minus => some (if afterOperand then .sign .minus else .negate)
  | .sign s => some (.sign s)
  | .not => some .not
  | .comma => some .tuple
  | .semicolon => some .chain
  | .assign => some .assign
  | .assignWith _ => some .assignWith
  | .name n => some (nameOperator n next)
  | .float x => some (.constant (.float x))
  | .int n => some (.constant (.int n))
  | .boolean b => some (.constant (.boolean b))
  | .string text => some (.constant (.string text))
  | .openParen | .closeParen => none

/-- The unfinished trees after one more token. -/
def Forest.addToken (afterOperand : Bool) (next : Option Token) (forest : Forest) :
    Token → Except Error Forest
  | .openParen => .ok (Node.emptyGroup :: forest)
  | .closeParen =>
    if forest.length ≤ 1 then .error .unmatchedClose
    else do
      match ← forest.collapse with
      | [] => .ok []
      | group :: rest => Forest.add group rest
  | token =>
    match token.operator? afterOperand next with
    | some operator => forest.add (Node.leaf operator)
    | none => .ok forest

/-- The unfinished trees after all tokens. -/
def Forest.addTokens (afterOperand : Bool) (forest : Forest) :
    List Token → Except Error Forest
  | [] => .ok forest
  | token :: rest =>
    match forest.addToken afterOperand rest.head? token with
    | .ok forest => forest.addTokens token.endsOperand rest
    | .error error => .error error

/-- **The tree of a list of tokens.** -/
def Node.ofTokens (tokens : List Token) : Except Error Node := do
  let forest ← Forest.addTokens false [Node.emptyGroup] tokens
  match ← forest.collapse with
  | [root] => .ok root
  | [] => .error .unmatchedClose
  | _ => .error .unmatchedOpen

end MapScript.Expr
