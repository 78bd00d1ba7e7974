/-
Running scripts.

A session holds the global variables while the blocks of a script are run one after the
other. A block with a `var` header defines a global variable. Any other block is expanded
to records, one for each repetition: a record lists the values of the parameters, which
see the number of the repetition as a local variable, and the global variables are
refreshed after each record.

A run leaves its marks in the script: which directives have been read, and the number of
the last repetition. They stay when the run fails, and the next run sets them anew.
-/
import MapScript.Globals
import MapScript.Script

set_option autoImplicit false

namespace MapScript

/-! ## Resolved blocks -/

/-- The value of one parameter. -/
structure Field where
  name : Text
  value : Option Text
deriving Repr, DecidableEq

/-- **A block after its resolution.** -/
structure ResolvedBlock where
  kind : DirectiveKind
  index : Nat
  name : Text
  data : Option Text
  records : List (List Field)
  /-- The parameters that nobody has read. -/
  unused : List UnusedDirective
deriving Repr, DecidableEq

/-- The value of the first field of a name in a record. -/
def ResolvedBlock.field? (block : ResolvedBlock) (record : Nat) (name : Text) : Option Text :=
  match block.records[record]? with
  | none => none
  | some fields =>
    match fields.find? (·.name = name) with
    | none => none
    | some field => field.value

/-- A resolved block with the header of a block. -/
def ResolvedBlock.ofBlock (block : Block) (data : Option Text) (records : List (List Field)) :
    ResolvedBlock :=
  ⟨block.header.kind, block.header.index, block.header.name, data, records, []⟩

/-! ## Sessions -/

/-- **A session:** a resolver and the global variables so far. -/
structure Session (m : Type → Type) where
  resolver : Resolver m
  globals : Globals

namespace Session

variable {m : Type → Type} [Monad m]

/-- A session without global variables. -/
def start (resolver : Resolver m) : Session m := ⟨resolver, .empty⟩

/-- Forgets the global variables. -/
def reset (session : Session m) : Session m := { session with globals := .empty }

/-- The current value of a global variable. -/
def valueOf (session : Session m) (name : Text) : m (Except ScriptError Text) :=
  session.globals.valueOf session.resolver name

/-- The session with other global variables. -/
def withGlobals (session : Session m) (globals : Globals) : Session m :=
  { session with globals := globals }

/-! ### Blocks that define a variable -/

/-- The policy that a block asks for; without a parameter for it, the value is computed
once. -/
def policyOf (resolver : Resolver m) (visible : List Variable) (block : Block) :
    m (Outcome Block ResolvePolicy) :=
  match block.param? "recompute".toList with
  | none => pure (.success .onceAtCreation block)
  | some param => do
    let block := block.useParam "recompute".toList
    match ← param.current resolver visible with
    | .error error => pure (.failure error block)
    | .ok value =>
      let text := value.getD []
      match ResolvePolicy.ofText? text with
      | some policy => pure (.success policy block)
      | none =>
        pure (.failure (param.malformed
          ("unknown recompute mode `".toList ++ Text.trim text ++ ['`'])) block)

/-- Defines the variable that a block declares under a name. -/
def defineNamed (session : Session m) (block : Block) (name : Text) :
    m (Outcome (Session m × Block) ResolvedBlock) := do
  match ← session.globals.snapshot session.resolver with
  | .error error => pure (.failure error (session, block))
  | .ok visible =>
    let data := ((block.param? "data".toList).bind (·.internal.data)).getD []
    let block := block.useParam "data".toList
    let policy ← policyOf session.resolver visible block
    let block := policy.state
    match policy.result with
    | .error error => pure (.failure error (session, block))
    | .ok policy =>
      let defined ←
        session.globals.define session.resolver name data policy block.header.index
      let session := session.withGlobals defined.state
      match defined.result with
      | .error error => pure (.failure error (session, block))
      | .ok _ =>
        match ← session.valueOf name with
        | .error error => pure (.failure error (session, block))
        | .ok value =>
          pure (.success (.ofBlock block (some name) [[⟨name, some value⟩]]) (session, block))

/-- **Runs a block that defines a variable.** -/
def defineVariable (session : Session m) (block : Block) :
    m (Outcome (Session m × Block) ResolvedBlock) :=
  let used := block.useHeader
  match block.header.internal.data with
  | some (c :: name) => session.defineNamed used (c :: name)
  | _ =>
    pure (.failure (block.header.malformed "var needs a name (var:Name)".toList)
      (session, used))

/-! ### Blocks that are expanded -/

/-- The name of the parameter that counts the repetitions, and of the local variable
that holds the number of one. -/
def repeatName : Text := "repeat".toList

/-- The number of repetitions that a block asks for; without a parameter for it, one. -/
def countOf (resolver : Resolver m) (visible : List Variable) (block : Block) :
    m (Outcome Block Nat) :=
  match block.param? repeatName with
  | none => pure (.success 1 block)
  | some param => do
    let block := block.useParam repeatName
    match ← param.current resolver visible with
    | .error error => pure (.failure error block)
    | .ok value =>
      let text := Text.trim (value.getD [])
      match Text.natBelow? (Nat.pow 2 64) text with
      | some count => pure (.success count block)
      | none =>
        pure (.failure (param.malformed
          ("repeat must be a whole number, got `".toList ++ text ++ ['`'])) block)

/-- Reads the parameters of one repetition, except for those that count them. -/
def readParams (resolver : Resolver m) (visible : List Variable) (iteration : Nat) :
    List Directive → m (Outcome (List Directive) (List Field))
  | [] => pure (.success [] [])
  | param :: rest => do
    if param.name = repeatName then
      let later ← readParams resolver visible iteration rest
      pure (later.mapState (param :: ·))
    else
      let param := param.setLocal ⟨repeatName, some (Text.ofNat iteration)⟩
      let read ← param.value resolver visible
      match read.result with
      | .error error => pure (.failure error (read.state :: rest))
      | .ok value =>
        let later ← readParams resolver visible iteration rest
        pure ((later.map (⟨param.name, value⟩ :: ·)).mapState (read.state :: ·))

/-- One repetition: a record, and the refresh after it. -/
def iteration (session : Session m) (block : Block) (number : Nat) :
    m (Outcome (Session m × Block) (List Field)) := do
  match ← session.globals.snapshot session.resolver with
  | .error error => pure (.failure error (session, block))
  | .ok visible =>
    let read ← readParams session.resolver visible number block.params
    let block := { block with params := read.state }
    match read.result with
    | .error error => pure (.failure error (session, block))
    | .ok fields =>
      let refreshed ← session.globals.refreshAll session.resolver
      let session := session.withGlobals refreshed.state
      pure ⟨refreshed.result.map fun _ => fields, (session, block)⟩

/-- The repetitions from `number` on, `remaining` of them. The first that fails ends
them. -/
def iterations (session : Session m) (block : Block) :
    (remaining number : Nat) → m (Outcome (Session m × Block) (List (List Field)))
  | 0, _ => pure (.success [] (session, block))
  | remaining + 1, number => do
    let outcome ← session.iteration block number
    let (session, block) := outcome.state
    match outcome.result with
    | .error error => pure (.failure error (session, block))
    | .ok fields =>
      let later ← session.iterations block remaining (number + 1)
      pure (later.map (fields :: ·))

/-- **Runs a block that is expanded.** -/
def expand (session : Session m) (block : Block) :
    m (Outcome (Session m × Block) ResolvedBlock) := do
  match ← session.globals.snapshot session.resolver with
  | .error error => pure (.failure error (session, block))
  | .ok visible =>
    let used := block.useHeader
    match ← block.header.current session.resolver visible with
    | .error error => pure (.failure error (session, used))
    | .ok data =>
      let count ← countOf session.resolver visible used
      match count.result with
      | .error error => pure (.failure error (session, count.state))
      | .ok number =>
        let outcome ← session.iterations count.state number 0
        pure (outcome.map (.ofBlock block data))

/-! ### Runs -/

/-- **Runs one block.** -/
def runBlock (session : Session m) (block : Block) :
    m (Outcome (Session m × Block) ResolvedBlock) := do
  let block := block.resetUsage
  let outcome ←
    match block.kind with
    | .variable => session.defineVariable block
    | _ => session.expand block
  pure (outcome.map fun resolved => { resolved with unused := outcome.state.2.unused })

/-- Runs blocks one after the other. Blocks after one that fails are left as they are. -/
def runBlocks (session : Session m) :
    List Block → m (Outcome (Session m × List Block) (List ResolvedBlock))
  | [] => pure (.success [] (session, []))
  | block :: rest => do
    let outcome ← session.runBlock block
    let (session, block) := outcome.state
    match outcome.result with
    | .error error => pure (.failure error (session, block :: rest))
    | .ok resolved =>
      let later ← session.runBlocks rest
      pure ((later.map (resolved :: ·)).mapState fun (session, rest) => (session, block :: rest))

/-- **Runs a script.** -/
def run (session : Session m) (script : Script) :
    m (Outcome (Session m × Script) (List ResolvedBlock)) := do
  let outcome ← session.runBlocks script.blocks
  pure (outcome.mapState fun (session, blocks) => (session, ⟨blocks⟩))

end Session

end MapScript
