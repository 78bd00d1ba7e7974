/-
Directives: the lines of a script, and the values they stand for.

A directive is read from one line, or built to hold a global variable. Its name is kept
in normal form and its data in the form that its kind asks for. Its value is the
resolution of the data, and the policy says when that is computed: on every read, on
every refresh, or once. A value that is not computed on every read is kept.

Reading a directive marks it as used, so that lines nobody reads can be reported. An
update changes the directive before it computes a new value; when that fails, the part
that has been changed stays changed.
-/
import MapScript.Outcome
import MapScript.Resolver

set_option autoImplicit false

namespace MapScript

/-! ## Kinds and policies -/

/-- What a line declares. -/
inductive DirectiveKind where
  | workspace
  | function
  | parameter
  | variable
  /-- Holds a global variable; no line is one. -/
  | container
deriving Repr, DecidableEq

namespace DirectiveKind

/-- **The kind of the lines with a name** in normal form. A name that begins with a
digit is that of a function. -/
def ofName (name : Text) : DirectiveKind :=
  if (name.head?.map Char.isDigit).getD false then .function
  else if name = "workspace".toList then .workspace
  else if name = "var".toList then .variable
  else .parameter

/-- Whether a line of this kind begins a block. -/
def isHeader : DirectiveKind → Bool
  | .workspace | .function | .variable => true
  | .parameter | .container => false

/-- The form in which data are kept: names of functions in normal form, names of
variables without white space, all else as it is. -/
def normalizeData (kind : DirectiveKind) (data : Text) : Text :=
  match kind with
  | .function => normalizeName data
  | .variable => Text.stripBlanks data
  | .workspace | .parameter | .container => data

end DirectiveKind

/-- When the value of a directive is computed. -/
inductive ResolvePolicy where
  | onEveryRead
  | onEveryRefresh
  | onceAtCreation
deriving Repr, DecidableEq

/-- The policy that a text names, by a number or by a word. -/
def ResolvePolicy.ofText? (text : Text) : Option ResolvePolicy :=
  let name := normalizeName text
  if name = "0".toList ∨ name = "read".toList then some .onEveryRead
  else if name = "1".toList ∨ name = "refresh".toList then some .onEveryRefresh
  else if name = "2".toList ∨ name = "once".toList ∨ name = "creation".toList then
    some .onceAtCreation
  else none

/-! ## Directives -/

/-- **One line of a script.** -/
structure Directive where
  /-- The line as it is written. -/
  line : Text
  /-- The number of the line. -/
  index : Nat
  kind : DirectiveKind
  /-- Name and data as written. -/
  raw : Variable
  /-- Name and data as kept. -/
  internal : Variable
  /-- The value that was computed last, if one is kept. -/
  kept : Option Variable
  policy : ResolvePolicy
  /-- The variables that only this directive sees. -/
  locals : List Variable
  /-- Whether the directive has been read. -/
  used : Bool
deriving Repr, DecidableEq

namespace Directive

/-- The name in normal form. -/
def name (directive : Directive) : Text := directive.internal.name

/-- **The directive of a line.** A line without a name is none. -/
def ofLine (line : Text) (index : Nat) : Except ScriptError Directive :=
  let raw := Variable.ofLine line
  let name := normalizeName raw.name
  if name = [] then .error (.emptyName index)
  else
    let kind := DirectiveKind.ofName name
    .ok {
      line := line
      index := index
      kind := kind
      raw := raw
      internal := ⟨name, raw.data.map kind.normalizeData⟩
      kept := none
      policy := .onEveryRead
      locals := []
      used := false }

/-- The error of a directive that says something wrong. -/
def malformed (directive : Directive) (message : Text) : ScriptError :=
  .malformedLine directive.index directive.line message

/-! ### Use and local variables -/

/-- The directive after it has been read. -/
def markUsed (directive : Directive) : Directive := { directive with used := true }

/-- The directive as if it had not been read. -/
def markUnused (directive : Directive) : Directive := { directive with used := false }

/-- Puts a variable in the place of the one of the same name, or at the end. -/
def insertLocal (var : Variable) : List Variable → List Variable
  | [] => [var]
  | first :: rest => if first.name = var.name then var :: rest else first :: insertLocal var rest

/-- Sets a variable that only this directive sees. -/
def setLocal (directive : Directive) (var : Variable) : Directive :=
  { directive with locals := insertLocal var directive.locals }

/-- The data before any resolution; reading them counts as use. -/
def readUnresolved (directive : Directive) : Option Text × Directive :=
  (directive.internal.data, directive.markUsed)

/-! ### Values -/

variable {m : Type → Type} [Monad m]

/-- The resolution of the data. An error is reported with the line. -/
def resolveData (resolver : Resolver m) (globals : List Variable) (directive : Directive) :
    m (Except ScriptError (Option Text)) :=
  match directive.internal.data with
  | none => pure (.ok none)
  | some data => do
    match ← resolver.resolve ⟨directive.locals, globals⟩ data with
    | .ok text => pure (.ok (some text))
    | .error error => pure (.error (error.atLine directive.index directive.line))

/-- **The value of a directive:** the kept one, unless it is computed on every read. -/
def current (resolver : Resolver m) (globals : List Variable) (directive : Directive) :
    m (Except ScriptError (Option Text)) :=
  match directive.kept, directive.policy with
  | some kept, .onEveryRefresh => pure (.ok kept.data)
  | some kept, .onceAtCreation => pure (.ok kept.data)
  | _, _ => directive.resolveData resolver globals

/-- The value of a directive, read as a use of it. -/
def value (resolver : Resolver m) (globals : List Variable) (directive : Directive) :
    m (Outcome Directive (Option Text)) := do
  pure ⟨← directive.current resolver globals, directive.markUsed⟩

/-- Computes the value and keeps it. -/
def materialize (resolver : Resolver m) (globals : List Variable) (directive : Directive) :
    m (Outcome Directive Unit) := do
  match ← directive.resolveData resolver globals with
  | .ok data =>
    pure (.success () { directive with kept := some ⟨directive.internal.name, data⟩ })
  | .error error => pure (.failure error directive)

/-! ### Updates -/

/-- **Sets the policy.** Under a policy that keeps values the value is computed now. -/
def setPolicy (resolver : Resolver m) (globals : List Variable) (policy : ResolvePolicy)
    (directive : Directive) : m (Outcome Directive Unit) :=
  let directive := { directive with policy := policy }
  match policy with
  | .onEveryRead => pure (.success () { directive with kept := none })
  | _ => directive.materialize resolver globals

/-- **Sets the data.** A value that is kept is computed again, and the value of a
container always. -/
def setData (resolver : Resolver m) (globals : List Variable) (data : Text)
    (directive : Directive) : m (Outcome Directive Unit) :=
  let directive :=
    { directive with internal := { directive.internal with data := some data } }
  if directive.policy ≠ .onEveryRead ∨ directive.kind = .container then
    directive.materialize resolver globals
  else pure (.success () directive)

/-- **Refreshes the value,** if the policy asks for it, and says whether it does. -/
def refresh (resolver : Resolver m) (globals : List Variable) (directive : Directive) :
    m (Outcome Directive Bool) :=
  if directive.policy = .onEveryRefresh then do
    pure ((← directive.materialize resolver globals).map fun _ => true)
  else pure (.success false directive)

/-! ### Containers -/

/-- A container before its value is computed. Its name and its data are kept as they
are. -/
def emptyContainer (name data : Text) (policy : ResolvePolicy) (index : Nat) : Directive where
  line := name ++ ':' :: data
  index := index
  kind := .container
  raw := ⟨name, some data⟩
  internal := ⟨name, some data⟩
  kept := none
  policy := policy
  locals := []
  used := false

/-- **A container of a variable.** Its value is computed now, whatever the policy. -/
def container (resolver : Resolver m) (globals : List Variable) (name data : Text)
    (policy : ResolvePolicy) (index : Nat) : m (Except ScriptError Directive) := do
  let outcome ← (emptyContainer name data policy index).materialize resolver globals
  pure (outcome.result.map fun _ => outcome.state)

end Directive

/-! ## Unused directives -/

/-- A directive that nobody has read. -/
structure UnusedDirective where
  name : Text
  index : Nat
deriving Repr, DecidableEq

/-- The directives of a list that have not been read, in order. -/
def unusedDirectives (directives : List Directive) : List UnusedDirective :=
  (directives.filter fun d => !d.used).map fun d => ⟨d.name, d.index⟩

end MapScript
