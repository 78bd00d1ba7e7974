/-
The records of a block that is expanded.

A repetition takes a snapshot of the global variables, gives each parameter its number, reads the
parameters and refreshes the variables, and each of these may fail. How many repetitions there are
does not enter into any of this. What a repetition yields is therefore a function of its number
(`Session.repetition`), with the snapshot that so many refreshes leave and the number as the only
local variable, and a block yields the list of these for the numbers below its count
(`iterations_of_numbered`). So a larger count yields more records and no others, unless a repetition
fails; then every count beyond it fails with its error (`runBlock_repetitions`).

The loop does not read the parameters of the script but what the repetitions before have made of
them. These differ in a mark and in the number of the last repetition (`Directive.Numbered`), and
the next number is set in the place of that one.
-/
import MapScript.Proofs.Grouping
import MapScript.Proofs.Lifecycle
import MapScript.Proofs.Traces

set_option autoImplicit false

namespace MapScript

/-! ## Lists of results -/

section Results

variable {α β : Type} {f : α → Except ScriptError β}

/-- **All results are asked for in order,** and they are had exactly when each of them is. -/
theorem mapM_eq_ok_iff {items : List α} {results : List β} :
    items.mapM f = .ok results ↔
      List.Forall₂ (fun item result => f item = .ok result) items results := by
  induction items generalizing results with
  | nil =>
    rw [List.mapM_nil, List.forall₂_nil_left_iff]
    constructor
    · intro h
      exact (Except.ok.inj h).symm
    · rintro rfl
      rfl
  | cons item rest ih =>
    rw [List.mapM_cons, List.forall₂_cons_left_iff]
    constructor
    · intro h
      cases hitem : f item with
      | error error =>
        rw [hitem] at h
        cases h
      | ok result =>
        cases hrest : rest.mapM f with
        | error error =>
          rw [hitem, hrest] at h
          cases h
        | ok later =>
          rw [hitem, hrest] at h
          exact ⟨result, later, rfl, ih.1 hrest, (Except.ok.inj h).symm⟩
    · rintro ⟨result, later, hitem, hlater, rfl⟩
      rw [hitem, ih.2 hlater]
      rfl

/-- The first error is the result. -/
theorem mapM_append_eq_error {before after : List α} {item : α} {error : ScriptError}
    (hbefore : ∀ earlier ∈ before, ∃ result, f earlier = .ok result)
    (hitem : f item = .error error) : (before ++ item :: after).mapM f = .error error := by
  induction before with
  | nil =>
    rw [List.nil_append, List.mapM_cons, hitem]
    rfl
  | cons first rest ih =>
    obtain ⟨⟨result, hfirst⟩, hrest⟩ := List.forall_mem_cons.1 hbefore
    rw [List.cons_append, List.mapM_cons, hfirst, ih hrest]
    rfl

/-- The results for fewer items are the first ones. -/
theorem isPrefix_of_mapM {items items' : List α} {results results' : List β}
    (hinitial : items <+: items') (h : items.mapM f = .ok results)
    (h' : items'.mapM f = .ok results') : results <+: results' := by
  obtain ⟨rest, rfl⟩ := hinitial
  have htake := List.forall₂_take items.length (mapM_eq_ok_iff.1 h')
  rw [List.take_left] at htake
  rw [Except.ok.inj (h.symm.trans (mapM_eq_ok_iff.2 htake))]
  exact List.take_prefix ..

end Results

/-! ## Blocks as they are parsed -/

namespace Directive

/-- A directive that is computed on every read, and of which nothing has been computed and nothing
been set. -/
structure Plain (directive : Directive) : Prop where
  policy : directive.policy = .onEveryRead
  kept : directive.kept = none
  locals : directive.locals = []

/-- A line is read to such a directive. -/
theorem Plain.of_ofLine {line : Text} {index : Nat} {directive : Directive}
    (h : ofLine line index = .ok directive) : directive.Plain := by
  rw [ofLine] at h
  split at h
  · cases h
  · cases h
    exact ⟨rfl, rfl, rfl⟩

end Directive

namespace Block

/-- **A block of a parsed script.** -/
def Parsed (block : Block) : Prop :=
  ∃ source script, Script.ofSource source = .ok script ∧ block ∈ script.blocks

/-- Its directives are as their lines are read. -/
theorem Parsed.plain {block : Block} (h : block.Parsed) :
    ∀ directive ∈ block.directives, directive.Plain := by
  obtain ⟨source, script, hscript, hblock⟩ := h
  obtain ⟨blocks, hblocks, rfl⟩ := exists_of_map_eq_ok hscript
  intro directive hdirective
  have hlines := Script.directives_of_blocksFrom hblocks
  have hmem : Except.ok directive ∈ (blocks.flatMap directives).map (@Except.ok ScriptError _) :=
    List.mem_map_of_mem (List.mem_flatMap.2 ⟨block, hblock, hdirective⟩)
  rw [hlines] at hmem
  obtain ⟨entry, -, hentry⟩ : ∃ entry ∈ Script.numberedLines source,
      Directive.ofLine entry.2 entry.1 = .ok directive := by
    simpa using hmem
  exact .of_ofLine hentry

/-- **A block after runs,** in sessions that may have any resolvers and global variables, succeeding
or failing. -/
inductive AfterRuns (original : Block) : Block → Prop where
  | refl : AfterRuns original original
  | run {block : Block} (h : AfterRuns original block) (session : Session Id) :
    AfterRuns original (session.runBlock block).run.state.2

/-- Runs keep the bare form. -/
theorem AfterRuns.bare_eq {original block : Block} (h : original.AfterRuns block) :
    block.bare = original.bare := by
  induction h with
  | refl => rfl
  | run h session ih => exact session.runBlock_keeps.trans ih

end Block

open Session (repeatName)

/-! ## What a repetition yields -/

/-- The field of a parameter in a repetition: its data, resolved with the number of the repetition
as the only local variable. -/
def Directive.fieldIn (resolver : Resolver Id) (visible : List Variable) (number : Nat)
    (param : Directive) : Except ScriptError Field :=
  (Moment.value param.index param.line ⟨resolver, param.internal.data,
    ⟨[⟨repeatName, some (Text.ofNat number)⟩], visible⟩⟩).map (⟨param.name, ·⟩)

/-- A field is that of a parameter when it has its name and the value of its data. -/
theorem Directive.fieldIn_eq_ok_iff {resolver : Resolver Id} {visible : List Variable}
    {number : Nat} {param : Directive} {field : Field} :
    param.fieldIn resolver visible number = .ok field ↔
      field.name = param.name ∧
        Moment.value param.index param.line ⟨resolver, param.internal.data,
          ⟨[⟨repeatName, some (Text.ofNat number)⟩], visible⟩⟩ = .ok field.value := by
  obtain ⟨name, value⟩ := field
  rw [fieldIn]
  cases Moment.value param.index param.line ⟨resolver, param.internal.data,
    ⟨[⟨repeatName, some (Text.ofNat number)⟩], visible⟩⟩ with
  | error error => simp [Except.map]
  | ok data => simp [Except.map, eq_comm]

namespace Globals

/-- The table after a number of refreshes. -/
def refreshed (resolver : Resolver Id) (globals : Globals) : Nat → Globals
  | 0 => globals
  | number + 1 => ((globals.refreshed resolver number).refreshAll resolver).run.state

/-- **One repetition by itself:** the snapshot, the fields of the parameters, and whether the
refresh after them succeeds. -/
def repetition (resolver : Resolver Id) (params : List Directive) (number : Nat)
    (globals : Globals) : Except ScriptError (List Field) := do
  let visible ← (globals.snapshot resolver).run
  let fields ← params.mapM (Directive.fieldIn resolver visible number)
  (globals.refreshAll resolver).run.result.map fun _ => fields

/-- A repetition, once the variables can be seen. -/
theorem repetition_of_snapshot {resolver : Resolver Id} {globals : Globals}
    {visible : List Variable} (h : (globals.snapshot resolver).run = .ok visible)
    (params : List Directive) (number : Nat) :
    globals.repetition resolver params number =
      params.mapM (Directive.fieldIn resolver visible number) >>= fun fields =>
        (globals.refreshAll resolver).run.result.map fun _ => fields := by
  rw [repetition, h]
  rfl

end Globals

/-- The parameters that are read in every repetition. -/
def Block.repeated (block : Block) : List Directive := block.params.filter (·.name ≠ repeatName)

/-- Blocks that differ only in how many repetitions they ask for. -/
structure Block.SameButCount (block block' : Block) : Prop where
  header : block'.header = block.header
  repeated : block'.repeated = block.repeated

namespace Session

/-- The session after a number of refreshes. -/
def refreshed (session : Session Id) (number : Nat) : Session Id :=
  session.withGlobals (session.globals.refreshed session.resolver number)

/-- **The repetition of a number,** from the state before the block. -/
def repetition (session : Session Id) (block : Block) (number : Nat) :
    Except ScriptError (List Field) :=
  (session.refreshed number).globals.repetition session.resolver block.repeated number

/-- **The record of a number:** it lists the parameters that do not count the repetitions, in order
and with their names, and each value is the resolution of the data of the parameter with the number
as its only local variable, against the snapshot of the global variables after as many refreshes. -/
def RecordOf (session : Session Id) (block : Block) (number : Nat) (record : List Field) : Prop :=
  ∃ visible, ((session.globals.refreshed session.resolver number).snapshot session.resolver).run =
      .ok visible ∧
    List.Forall₂ (fun param field => field.name = param.name ∧
      Directive.Moment.value param.index param.line ⟨session.resolver, param.internal.data,
        ⟨[⟨repeatName, some (Text.ofNat number)⟩], visible⟩⟩ = .ok field.value)
      block.repeated record

/-- The number of repetitions that a block asks for: what the first parameter that counts them
resolves to, if it is a whole number, and one without such a parameter. -/
def count? (session : Session Id) (block : Block) : Option Nat :=
  match (session.globals.snapshot session.resolver).run, block.param? repeatName with
  | .error _, _ => none
  | .ok _, none => some 1
  | .ok visible, some param =>
    match Directive.Moment.value param.index param.line
        ⟨session.resolver, param.internal.data, ⟨[], visible⟩⟩ with
    | .error _ => none
    | .ok value => Text.natBelow? (Nat.pow 2 64) (Text.trim (value.getD []))

/-- The data of the header can be resolved, so that the repetitions begin. -/
def Begins (session : Session Id) (block : Block) : Prop :=
  ∃ visible data, (session.globals.snapshot session.resolver).run = .ok visible ∧
    Directive.Moment.value block.header.index block.header.line
      ⟨session.resolver, block.header.internal.data, ⟨[], visible⟩⟩ = .ok data

/-- **The first repetition that fails,** with its error. -/
structure FirstFails (session : Session Id) (block : Block) (number : Nat) (error : ScriptError) :
    Prop where
  begins : session.Begins block
  succeed : ∀ i < number, ∃ record, session.repetition block i = .ok record
  fails : session.repetition block number = .error error

end Session

/-! ## Parameters that have been read -/

namespace Directive

/-- **A parameter that repetitions have read.** It has a mark and the number of the last repetition
as its only local variable, unless it counts the repetitions. -/
structure Numbered (original directive : Directive) : Prop where
  index : directive.index = original.index
  line : directive.line = original.line
  internal : directive.internal = original.internal
  kept : directive.kept = original.kept
  locals : directive.locals = [] ∨
    original.name ≠ repeatName ∧ ∃ number, directive.locals = [⟨repeatName, number⟩]

variable {original directive : Directive}

/-- Nothing has been read yet. -/
theorem Plain.numbered (h : original.Plain) : original.Numbered original :=
  ⟨rfl, rfl, rfl, rfl, .inl h.locals⟩

namespace Numbered

/-- Whether a directive is marked makes no difference. -/
theorem withUsed (h : original.Numbered directive) (used : Bool) :
    original.Numbered { directive with used := used } :=
  ⟨h.index, h.line, h.internal, h.kept, h.locals⟩

/-- The name is the same. -/
theorem name_eq (h : original.Numbered directive) : directive.name = original.name :=
  congrArg Variable.name h.internal

/-- A number that is set is the only local variable. -/
theorem locals_setLocal (h : original.Numbered directive) (number : Option Text) :
    (directive.setLocal ⟨repeatName, number⟩).locals = [⟨repeatName, number⟩] := by
  rw [Directive.setLocal]
  rcases h.locals with hnone | ⟨-, last, hlast⟩
  · rw [hnone, insertLocal]
  · rw [hlast, insertLocal, if_pos rfl]

/-- A parameter that is given a number has been read in a repetition. -/
theorem setLocal (h : original.Numbered directive) (hname : original.name ≠ repeatName)
    (number : Option Text) :
    original.Numbered (directive.setLocal ⟨repeatName, number⟩) :=
  ⟨h.index, h.line, h.internal, h.kept, .inr ⟨hname, number, h.locals_setLocal number⟩⟩

/-- **It is computed from the data of its line** and the local variables that it has. -/
theorem current_eq (h : original.Numbered directive) (hplain : original.Plain)
    (resolver : Resolver Id) (visible : List Variable) :
    (directive.current resolver visible).run =
      Moment.value original.index original.line
        ⟨resolver, original.internal.data, ⟨directive.locals, visible⟩⟩ := by
  have hkept : directive.kept = none := h.kept.trans hplain.kept
  rw [current, hkept]
  simp only [resolveData_eq_value, h.index, h.line, h.internal]

end Numbered

/-- A directive of a line is computed from its data without local variables. -/
theorem Plain.current_eq (h : directive.Plain) (resolver : Resolver Id) (visible : List Variable) :
    (directive.current resolver visible).run =
      Moment.value directive.index directive.line
        ⟨resolver, directive.internal.data, ⟨[], visible⟩⟩ := by
  rw [h.numbered.current_eq h, h.locals]

end Directive

/-! ## The repetitions of a block -/

namespace Session

open Directive (Numbered)

variable {originals params : List Directive}

/-- **Reading the parameters of one repetition** yields the fields of those that are not passed
over, or the first error. -/
theorem readParams_of_numbered (resolver : Resolver Id) (visible : List Variable)
    (hplain : ∀ original ∈ originals, original.Plain)
    (h : List.Forall₂ Numbered originals params) (number : Nat) :
    (readParams resolver visible number params).run.result =
        (originals.filter (·.name ≠ repeatName)).mapM
          (Directive.fieldIn resolver visible number) ∧
      List.Forall₂ Numbered originals (readParams resolver visible number params).run.state := by
  induction h with
  | nil => exact ⟨rfl, .nil⟩
  | @cons original param originals rest hparam hrest ih =>
    obtain ⟨hfirst, hothers⟩ := List.forall_mem_cons.1 hplain
    obtain ⟨hresult, hstate⟩ := ih hothers
    by_cases hname : original.name = repeatName
    · rw [readParams_cons_of_repeat _ _ (hparam.name_eq.trans hname),
        List.filter_cons_of_neg (by simpa using hname)]
      exact ⟨hresult, .cons hparam hstate⟩
    · have hnumbered := hparam.setLocal hname (some (Text.ofNat number))
      have hvalue := hnumbered.current_eq hfirst resolver visible
      rw [hparam.locals_setLocal] at hvalue
      rw [readParams_cons_of_ne _ _ (hparam.name_eq ▸ hname),
        List.filter_cons_of_pos (by simpa using hname), List.mapM_cons, Directive.fieldIn,
        hparam.name_eq]
      dsimp only
      rw [hvalue, ← hresult]
      generalize (readParams resolver visible number rest).run = read at hstate ⊢
      cases Directive.Moment.value original.index original.line ⟨resolver, original.internal.data,
          ⟨[⟨repeatName, some (Text.ofNat number)⟩], visible⟩⟩ with
      | error error => exact ⟨rfl, .cons (hnumbered.withUsed true) hrest⟩
      | ok value =>
        refine ⟨?_, .cons (hnumbered.withUsed true) hstate⟩
        obtain ⟨result, state⟩ := read
        cases result <;> rfl

variable {session : Session Id} {visible : List Variable} {original block : Block}

/-- **One repetition** yields what its number says, and leaves the parameters numbered. When it
succeeds the session has been refreshed. -/
theorem iteration_of_numbered (session : Session Id)
    (hplain : ∀ param ∈ original.params, param.Plain)
    (h : List.Forall₂ Numbered original.params block.params) (number : Nat) :
    (session.iteration block number).run.result =
        session.globals.repetition session.resolver original.repeated number ∧
      List.Forall₂ Numbered original.params (session.iteration block number).run.state.2.params ∧
      ∀ record, (session.iteration block number).run.result = .ok record →
        (session.iteration block number).run.state.1 = session.refreshed 1 := by
  cases hsnapshot : (session.globals.snapshot session.resolver).run with
  | error error =>
    rw [iteration, Globals.repetition, Id.run_bind, hsnapshot]
    refine ⟨rfl, h, ?_⟩
    intro record hrecord
    cases hrecord
  | ok visible =>
    obtain ⟨hresult, hstate⟩ := readParams_of_numbered session.resolver visible hplain h number
    rw [iteration_of_snapshot session visible hsnapshot, Block.repeated,
      Globals.repetition_of_snapshot hsnapshot, ← hresult]
    generalize (readParams session.resolver visible number block.params).run = read at hstate ⊢
    obtain ⟨error | fields, params⟩ := read
    · refine ⟨rfl, hstate, ?_⟩
      intro record hrecord
      cases hrecord
    · exact ⟨rfl, hstate, fun record hrecord => rfl⟩

/-- The session after a refresh more. -/
theorem refreshed_succ (number : Nat) :
    (session.refreshed number).refreshed 1 = session.refreshed (number + 1) := rfl

/-- **The repetitions yield what their numbers say,** one after the other from the number on that
they begin with, where the session has been refreshed as often. -/
theorem iterations_of_numbered (session : Session Id)
    (hplain : ∀ param ∈ original.params, param.Plain)
    (h : List.Forall₂ Numbered original.params block.params) (remaining number : Nat) :
    ((session.refreshed number).iterations block remaining number).run.result =
        (List.range' number remaining).mapM (session.repetition original) ∧
      ∀ records,
        ((session.refreshed number).iterations block remaining number).run.result = .ok records →
          ((session.refreshed number).iterations block remaining number).run.state.1 =
            session.refreshed (number + remaining) := by
  induction remaining generalizing block number with
  | zero => exact ⟨rfl, fun records hrecords => rfl⟩
  | succ remaining ih =>
    obtain ⟨hresult, hstate, hsession⟩ :=
      iteration_of_numbered (session.refreshed number) hplain h number
    have hyield : ((session.refreshed number).iteration block number).run.result =
        session.repetition original number := hresult
    rw [iterations_succ, List.range'_succ, List.mapM_cons, ← hyield]
    generalize ((session.refreshed number).iteration block number).run = outcome
      at hstate hsession ⊢
    obtain ⟨error | record, session', block'⟩ := outcome
    · exact ⟨rfl, fun records hrecords => nomatch hrecords⟩
    · obtain rfl := hsession record rfl
      obtain ⟨hlater, hlast⟩ := ih hstate (number + 1)
      rw [← hlater]
      dsimp only
      rw [refreshed_succ]
      generalize ((session.refreshed (number + 1)).iterations block' remaining (number + 1)).run =
        later at hlast ⊢
      obtain ⟨error | records, state⟩ := later
      · exact ⟨rfl, fun records hrecords => nomatch hrecords⟩
      · refine ⟨rfl, fun _ _ => ?_⟩
        rw [← Nat.add_assoc, Nat.add_right_comm]
        exact hlast records rfl

/-! ## How many repetitions there are -/

/-- Marking the first parameter of a name leaves the parameters as they have been read. -/
theorem useFirst_of_numbered (h : List.Forall₂ Numbered originals params) (name : Text) :
    List.Forall₂ Numbered originals (Block.useFirst name params) := by
  induction h with
  | nil => exact .nil
  | cons hparam hrest ih =>
    rw [Block.useFirst]
    split
    · exact .cons (hparam.withUsed true) hrest
    · exact .cons hparam ih

/-- **The count is found before anything is read,** and the parameter that says it is marked. -/
theorem countOf_of_plain (hplain : ∀ param ∈ original.params, param.Plain)
    (hsnapshot : (session.globals.snapshot session.resolver).run = .ok visible) :
    (∀ count, (countOf session.resolver visible original.resetUsage.useHeader).run.result =
        .ok count ↔ session.count? original = some count) ∧
      List.Forall₂ Numbered original.params
        (countOf session.resolver visible original.resetUsage.useHeader).run.state.params := by
  have hreset : List.Forall₂ Numbered original.params original.resetUsage.useHeader.params := by
    refine List.forall₂_map_right_iff.2 (List.forall₂_same.2 ?_)
    intro param hparam
    exact (hplain param hparam).numbered.withUsed false
  have hparam : original.resetUsage.useHeader.param? repeatName =
      (original.param? repeatName).map Directive.markUnused := original.param?_resetUsage repeatName
  rw [countOf, hparam]
  unfold count?
  rw [hsnapshot]
  cases hfind : original.param? repeatName with
  | none => exact ⟨fun count => by simp [Outcome.success], hreset⟩
  | some param =>
    have hmarked : (param.markUnused.current session.resolver visible).run =
        Directive.Moment.value param.index param.line
          ⟨session.resolver, param.internal.data, ⟨[], visible⟩⟩ :=
      (hplain param (List.mem_of_find?_eq_some hfind)).current_eq session.resolver visible
    have hused := useFirst_of_numbered hreset repeatName
    rw [Option.map_some]
    dsimp only
    rw [Id.run_bind, hmarked]
    cases Directive.Moment.value param.index param.line
        ⟨session.resolver, param.internal.data, ⟨[], visible⟩⟩ with
    | error error => exact ⟨fun count => by simp [Outcome.failure], hused⟩
    | ok value =>
      dsimp only
      cases Text.natBelow? (Nat.pow 2 64) (Text.trim (value.getD [])) with
      | none => exact ⟨fun count => by simp [Outcome.failure], hused⟩
      | some count => exact ⟨fun count => by simp [Outcome.success], hused⟩

/-! ## Runs -/

/-- A block that is run to its end has begun, and has had a count. -/
theorem begins_of_runBlock (hplain : ∀ directive ∈ original.directives, directive.Plain)
    (hkind : original.kind ≠ .variable) {resolved : ResolvedBlock}
    (h : (session.runBlock original).run.result = .ok resolved) :
    session.Begins original ∧ ∃ count, session.count? original = some count := by
  obtain ⟨hheader, hparams⟩ := List.forall_mem_cons.1 hplain
  rw [runBlock_of_ne session hkind] at h
  cases hsnapshot : (session.globals.snapshot session.resolver).run with
  | error error =>
    rw [expand, Id.run_bind, hsnapshot] at h
    cases h
  | ok visible =>
    have hdata := hheader.current_eq session.resolver visible
    have hcount := (countOf_of_plain hparams hsnapshot).1
    rw [expand_of_snapshot session visible hsnapshot] at h
    cases hvalue : (original.header.current session.resolver visible).run with
    | error error =>
      have hreset : (original.resetUsage.header.current session.resolver visible).run =
          .error error := hvalue
      rw [hreset] at h
      cases h
    | ok data =>
      have hreset : (original.resetUsage.header.current session.resolver visible).run =
          .ok data := hvalue
      rw [hreset] at h
      dsimp only at h
      cases hnumber :
          (countOf session.resolver visible original.resetUsage.useHeader).run.result with
      | error error =>
        rw [hnumber] at h
        cases h
      | ok count =>
        rw [hdata] at hvalue
        exact ⟨⟨visible, data, hsnapshot, hvalue⟩, count, (hcount count).1 hnumber⟩

/-- **A block that begins yields as many repetitions as it asks for.** At the end the session has
been refreshed as often. -/
theorem runBlock_of_begins (hplain : ∀ directive ∈ original.directives, directive.Plain)
    (hkind : original.kind ≠ .variable) (hbegins : session.Begins original) {count : Nat}
    (hcount : session.count? original = some count) :
    (session.runBlock original).run.result.map (·.records) =
        (List.range count).mapM (session.repetition original) ∧
      ∀ resolved, (session.runBlock original).run.result = .ok resolved →
        (session.runBlock original).run.state.1 = session.refreshed count := by
  obtain ⟨hheader, hparams⟩ := List.forall_mem_cons.1 hplain
  obtain ⟨visible, data, hsnapshot, hdata⟩ := hbegins
  obtain ⟨hnumber, hstate⟩ := countOf_of_plain hparams hsnapshot
  have hreset : (original.resetUsage.header.current session.resolver visible).run = .ok data :=
    (hheader.current_eq session.resolver visible).trans hdata
  obtain ⟨hresult, hlast⟩ := iterations_of_numbered session hparams hstate count 0
  rw [runBlock_of_ne session hkind, expand_of_snapshot session visible hsnapshot, hreset]
  dsimp only
  rw [(hnumber count).2 hcount, List.range_eq_range', ← hresult]
  rw [Nat.zero_add] at hlast
  have hstart : session.refreshed 0 = session := rfl
  rw [hstart] at hlast ⊢
  dsimp only
  generalize (session.iterations _ count 0).run = outcome at hlast ⊢
  obtain ⟨error | records, state⟩ := outcome
  · exact ⟨rfl, fun resolved hresolved => nomatch hresolved⟩
  · exact ⟨rfl, fun _ _ => hlast records rfl⟩

/-- **A block that is run to its end** has yielded the repetitions of the numbers below its
count. -/
theorem records_of_runBlock (hplain : ∀ directive ∈ original.directives, directive.Plain)
    (hkind : original.kind ≠ .variable) {resolved : ResolvedBlock}
    (h : (session.runBlock original).run.result = .ok resolved) :
    ∃ count, session.count? original = some count ∧
      (List.range count).mapM (session.repetition original) = .ok resolved.records ∧
      (session.runBlock original).run.state.1 = session.refreshed count := by
  obtain ⟨hbegins, count, hcount⟩ := begins_of_runBlock hplain hkind h
  obtain ⟨hrecords, hlast⟩ := runBlock_of_begins hplain hkind hbegins hcount
  rw [h] at hrecords
  exact ⟨count, hcount, hrecords.symm, hlast resolved h⟩

/-- **A repetition that succeeds** yields the record of its number. -/
theorem recordOf_of_repetition {number : Nat} {record : List Field}
    (h : session.repetition original number = .ok record) :
    session.RecordOf original number record := by
  cases hsnapshot :
      ((session.globals.refreshed session.resolver number).snapshot session.resolver).run with
  | error error =>
    rw [repetition, Globals.repetition, refreshed, withGlobals, hsnapshot] at h
    cases h
  | ok visible =>
    have hrepetition := Globals.repetition_of_snapshot hsnapshot original.repeated number
    rw [repetition, refreshed, withGlobals, hrepetition] at h
    cases hfields :
        original.repeated.mapM (Directive.fieldIn session.resolver visible number) with
    | error error =>
      rw [hfields] at h
      cases h
    | ok fields =>
      rw [hfields] at h
      obtain ⟨-, -, rfl⟩ := exists_of_map_eq_ok h
      refine ⟨visible, hsnapshot, (mapM_eq_ok_iff.1 hfields).imp ?_⟩
      intro param field hfield
      exact Directive.fieldIn_eq_ok_iff.1 hfield

/-- **There are as many records as the block asks for,** each the one of its number. -/
theorem recordsOf_of_runBlock (hplain : ∀ directive ∈ original.directives, directive.Plain)
    (hkind : original.kind ≠ .variable) {resolved : ResolvedBlock}
    (h : (session.runBlock original).run.result = .ok resolved) :
    ∃ count, session.count? original = some count ∧ resolved.records.length = count ∧
      (∀ number record, resolved.records[number]? = some record →
        session.RecordOf original number record) ∧
      (session.runBlock original).run.state.1 = session.refreshed count := by
  obtain ⟨count, hcount, hrecords, hlast⟩ := records_of_runBlock hplain hkind h
  have heach := mapM_eq_ok_iff.1 hrecords
  have hlength := heach.length_eq
  refine ⟨count, hcount, ?_, ?_, hlast⟩
  · rw [← hlength, List.length_range]
  · intro number record hrecord
    obtain ⟨hlt, hget⟩ := List.getElem?_eq_some_iff.1 hrecord
    have hyield := (List.forall₂_iff_get.1 heach).2 number (by omega) hlt
    rw [List.get_eq_getElem, List.get_eq_getElem, List.getElem_range, hget] at hyield
    exact recordOf_of_repetition hyield

section Counts

variable {original' : Block} (hcounts : original.SameButCount original')
  (hkind : original.kind ≠ .variable)
  (hplain' : ∀ directive ∈ original'.directives, directive.Plain)

include hcounts

/-- The repetitions of blocks that differ in their counts are the same. -/
theorem repetition_of_sameButCount :
    session.repetition original' = session.repetition original := by
  funext number
  rw [repetition, repetition, hcounts.repeated]

include hkind hplain'

/-- **A smaller count yields the first records of a larger one.** -/
theorem records_isPrefix (hplain : ∀ directive ∈ original.directives, directive.Plain)
    {count count' : Nat} (hcount : session.count? original = some count)
    (hcount' : session.count? original' = some count') (hle : count ≤ count')
    {resolved resolved' : ResolvedBlock}
    (h : (session.runBlock original).run.result = .ok resolved)
    (h' : (session.runBlock original').run.result = .ok resolved') :
    resolved.records <+: resolved'.records := by
  have hkind' : original'.kind ≠ .variable := by
    rwa [Block.kind, hcounts.header]
  obtain ⟨_, hfound, hrecords, -⟩ := records_of_runBlock hplain hkind h
  obtain ⟨_, hfound', hrecords', -⟩ := records_of_runBlock hplain' hkind' h'
  obtain rfl := Option.some.inj (hcount.symm.trans hfound)
  obtain rfl := Option.some.inj (hcount'.symm.trans hfound')
  rw [repetition_of_sameButCount hcounts] at hrecords'
  have hinitial : List.range count <+: List.range count' := by
    obtain ⟨more, rfl⟩ := Nat.exists_eq_add_of_le hle
    rw [List.range_add]
    exact List.prefix_append ..
  exact isPrefix_of_mapM hinitial hrecords hrecords'

/-- **A count beyond the first repetition that fails** fails with its error. -/
theorem runBlock_of_firstFails {number : Nat} {error : ScriptError}
    (hfails : session.FirstFails original number error) {count' : Nat}
    (hcount' : session.count? original' = some count') (hlt : number < count') :
    (session.runBlock original').run.result = .error error := by
  have hkind' : original'.kind ≠ .variable := by
    rwa [Block.kind, hcounts.header]
  have hbegins : session.Begins original' := by
    rw [Begins, hcounts.header]
    exact hfails.begins
  have hrecords := (runBlock_of_begins hplain' hkind' hbegins hcount').1
  have herror : (List.range count').mapM (session.repetition original) = .error error := by
    obtain ⟨more, rfl⟩ := Nat.exists_eq_add_of_lt hlt
    rw [Nat.add_assoc, List.range_add, List.range_succ_eq_map, List.map_cons, Nat.add_zero]
    exact mapM_append_eq_error (fun i hi => hfails.succeed i (List.mem_range.1 hi)) hfails.fails
  rw [repetition_of_sameButCount hcounts, herror] at hrecords
  exact map_eq_error_iff.1 hrecords

end Counts

/-- A run of a block after other runs is one of the block as it has been parsed. -/
theorem runBlock_of_afterRuns (session : Session Id) (h : original.AfterRuns block) :
    (session.runBlock block).run.result = (session.runBlock original).run.result ∧
      (session.runBlock block).run.state.1 = (session.runBlock original).run.state.1 :=
  Outcome.mapState_inj.1 (session.runBlock_congr h.bare_eq)

/-- **A block yields exactly its repetitions, each independent of the count.**

A block of a parsed script that is expanded, whatever runs of it came before, is run in a session.

* If it succeeds it has as many records as it asks for, each the one of its number (`RecordOf`), and
  the global variables have been refreshed as often.
* Of two blocks that differ only in their counts, the one that asks for fewer repetitions has the
  first records of the other when both succeed; and if one repetition is the first that fails, each
  count beyond it fails with its error. -/
theorem runBlock_repetitions {original : Block} (hparsed : original.Parsed)
    (hkind : original.kind ≠ .variable) {block : Block} (hblock : original.AfterRuns block)
    (session : Session Id) :
    (∀ resolved, (session.runBlock block).run.result = .ok resolved →
      ∃ count, session.count? original = some count ∧ resolved.records.length = count ∧
        (∀ number record, resolved.records[number]? = some record →
          session.RecordOf original number record) ∧
        (session.runBlock block).run.state.1 =
          session.withGlobals (session.globals.refreshed session.resolver count)) ∧
    (∀ original' block', original'.Parsed → original'.AfterRuns block' →
      original.SameButCount original' →
        (∀ count count' resolved resolved', session.count? original = some count →
          session.count? original' = some count' → count ≤ count' →
          (session.runBlock block).run.result = .ok resolved →
          (session.runBlock block').run.result = .ok resolved' →
            resolved.records <+: resolved'.records) ∧
        (∀ number error, session.FirstFails original number error →
          ∀ count', session.count? original' = some count' → number < count' →
            (session.runBlock block').run.result = .error error)) := by
  obtain ⟨hresult, hstate⟩ := runBlock_of_afterRuns session hblock
  rw [hresult, hstate]
  refine ⟨?_, ?_⟩
  · intro resolved h
    exact recordsOf_of_runBlock hparsed.plain hkind h
  · intro original' block' hparsed' hblock' hcounts
    rw [(runBlock_of_afterRuns session hblock').1]
    refine ⟨?_, ?_⟩
    · intro count count' resolved resolved' hcount hcount' hle h h'
      exact records_isPrefix hcounts hkind hparsed'.plain hparsed.plain hcount hcount' hle h h'
    · intro number error hfails count' hcount' hlt
      exact runBlock_of_firstFails hcounts hkind hparsed'.plain hfails hcount' hlt

/-- A resolver of one function, which refuses the number two and gives back everything else. -/
def refusingTwo : Resolver Id :=
  .of ⟨[("f".toList, fun arguments =>
    if arguments.raw = ['2'] then arguments.refuse "no".toList else pure (.ok arguments.raw))]⟩
    .standard

/-- A block that asks for repetitions and calls the function with the number of each. -/
def callingBlock (count : Char) : Block where
  header := ⟨"0:wall".toList, 1, .function, ⟨['0'], some "wall".toList⟩,
    ⟨['0'], some "wall".toList⟩, none, .onEveryRead, [], false⟩
  params :=
    [⟨"  repeat:".toList ++ [count], 2, .parameter, ⟨"  repeat".toList, some [count]⟩,
      ⟨repeatName, some [count]⟩, none, .onEveryRead, [], false⟩,
    ⟨"  size:f(repeat)".toList, 3, .parameter, ⟨"  size".toList, some "f(repeat)".toList⟩,
      ⟨"size".toList, some "f(repeat)".toList⟩, none, .onEveryRead, [], false⟩]

/-- The third repetition is the first that fails. A block that asks for two has two records, and one
that asks for five fails with the error of the third. -/
theorem runBlock_repetitions_refused :
    (callingBlock '2').Parsed ∧ (callingBlock '5').Parsed ∧
      (callingBlock '2').kind ≠ .variable ∧
      (∃ resolved, ((start refusingTwo).runBlock (callingBlock '2')).run.result = .ok resolved ∧
        resolved.records.length = 2) ∧
      ∃ error, (start refusingTwo).FirstFails (callingBlock '2') 2 error ∧
        ((start refusingTwo).runBlock (callingBlock '5')).run.result = .error error := by
  have hparsed : (callingBlock '2').Parsed :=
    ⟨"0:wall\n  repeat:2\n  size:f(repeat)".toList, ⟨[callingBlock '2']⟩,
      eq_ok_of_toOption (by decide +kernel), List.mem_singleton_self _⟩
  have hparsed' : (callingBlock '5').Parsed :=
    ⟨"0:wall\n  repeat:5\n  size:f(repeat)".toList, ⟨[callingBlock '5']⟩,
      eq_ok_of_toOption (by decide +kernel), List.mem_singleton_self _⟩
  have hkind : (callingBlock '2').kind ≠ .variable := by decide
  have hcount : (start refusingTwo).count? (callingBlock '2') = some 2 := by decide +kernel
  have hcount' : (start refusingTwo).count? (callingBlock '5') = some 5 := by decide +kernel
  obtain ⟨hrecords, hothers⟩ := runBlock_repetitions hparsed hkind .refl (start refusingTwo)
  refine ⟨hparsed, hparsed', hkind, ?_, ?_⟩
  · obtain ⟨resolved, hresult⟩ := exists_ok_of_isOk (show
      ((start refusingTwo).runBlock (callingBlock '2')).run.result.isOk = true by decide +kernel)
    obtain ⟨count, hfound, hlength, -⟩ := hrecords resolved hresult
    rw [hcount] at hfound
    exact ⟨resolved, hresult, hlength.trans (Option.some.inj hfound).symm⟩
  · obtain ⟨error, herror⟩ := exists_error_of_toOption (show
      ((start refusingTwo).repetition (callingBlock '2') 2).toOption = none by decide +kernel)
    have hfirst : (start refusingTwo).FirstFails (callingBlock '2') 2 error := by
      refine ⟨⟨[], some "wall".toList, rfl, eq_ok_of_toOption (by decide +kernel)⟩, ?_, herror⟩
      intro i hi
      refine ⟨[⟨"size".toList, some (Text.ofNat i)⟩], eq_ok_of_toOption ?_⟩
      interval_cases i <;> decide +kernel
    have hbeyond := (hothers (callingBlock '5') (callingBlock '5') hparsed' .refl
      ⟨rfl, rfl⟩).2 2 error hfirst 5 hcount' (by omega)
    exact ⟨error, hfirst, hbeyond⟩

end Session

end MapScript
