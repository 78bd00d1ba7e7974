/-
What a run leaves behind in a script.

A run marks what it has read, and it writes the number of the last repetition to the
parameters it reads. Where it fails it stops half-way, between two parameters or two blocks.
None of this is seen by a later run: the marks are reset before a block is run, and a
parameter is given the number of the new repetition before it is read.

The argument is in two halves. A block has a bare form (`Block.bare`), the block with the
marks and the number taken away. A run keeps the bare form of every block (`runBlocks_keeps`),
and its result depends on the bare forms only (`runBlocks_congr`). The number may be taken away
from the parameters of a block that is expanded, where it is set anew, but not from those of
a block that defines a variable: there no number is set, and a local variable of the name
would be used.
-/
import MapScript.Proofs.Parameters
import Mathlib.Logic.Function.Basic

set_option autoImplicit false

namespace MapScript

/-! ## Outcomes up to a view of their states -/

namespace Outcome

variable {σ τ α : Type} {first second : Outcome σ α} {view : σ → τ}

/-- Outcomes that agree up to a view of their states have one result and one view. -/
theorem mapState_inj :
    first.mapState view = second.mapState view ↔
      first.result = second.result ∧ view first.state = view second.state := by
  rw [mapState, mapState, Outcome.mk.injEq]

end Outcome

/-! ## The number of a repetition -/

namespace Directive

open Session (repeatName)

/-- Of two variables of one name that are set, the second stays. -/
theorem insertLocal_insertLocal {first second : Variable} (h : first.name = second.name)
    (locals : List Variable) :
    insertLocal second (insertLocal first locals) = insertLocal second locals := by
  induction locals with
  | nil => exact if_pos h
  | cons var rest ih =>
    by_cases hvar : var.name = first.name
    · have hsecond : var.name = second.name := hvar.trans h
      rw [insertLocal, if_pos hvar, insertLocal, if_pos h, insertLocal, if_pos hsecond]
    · have hsecond : var.name ≠ second.name := fun heq => hvar (heq.trans h.symm)
      rw [insertLocal, if_neg hvar, insertLocal, if_neg hsecond, insertLocal, if_neg hsecond, ih]

variable {directive : Directive}

/-- Of two variables of one name that a directive is given, the second stays. -/
theorem setLocal_setLocal {first second : Variable} (h : first.name = second.name) :
    (directive.setLocal first).setLocal second = directive.setLocal second :=
  congrArg (fun locals => { directive with locals := locals })
    (insertLocal_insertLocal h directive.locals)

/-- A directive without the number of the last repetition: the variable that holds it is
there, and empty. A directive that counts the repetitions is never given a number. -/
def forgetNumber (directive : Directive) : Directive :=
  if directive.name = repeatName then directive else directive.setLocal ⟨repeatName, none⟩

/-- Where the repetitions are counted there is nothing to forget. -/
theorem forgetNumber_of_repeat (h : directive.name = repeatName) :
    directive.forgetNumber = directive :=
  if_pos h

/-- A new number is set in the place of the one before. -/
theorem setLocal_forgetNumber (h : directive.name ≠ repeatName) (number : Option Text) :
    directive.forgetNumber.setLocal ⟨repeatName, number⟩ =
      directive.setLocal ⟨repeatName, number⟩ := by
  rw [forgetNumber, if_neg h]
  exact setLocal_setLocal rfl

/-- A number that is set can be forgotten. -/
theorem forgetNumber_setLocal (h : directive.name ≠ repeatName) (number : Option Text) :
    (directive.setLocal ⟨repeatName, number⟩).forgetNumber = directive.forgetNumber := by
  have hset : (directive.setLocal ⟨repeatName, number⟩).name ≠ repeatName := h
  rw [forgetNumber, if_neg hset, forgetNumber, if_neg h]
  exact setLocal_setLocal rfl

/-- A number is forgotten once. -/
theorem forgetNumber_forgetNumber :
    directive.forgetNumber.forgetNumber = directive.forgetNumber := by
  by_cases h : directive.name = repeatName
  · rw [forgetNumber_of_repeat h, forgetNumber_of_repeat h]
  · have hforget : directive.forgetNumber = directive.setLocal ⟨repeatName, none⟩ := if_neg h
    rw [hforget, forgetNumber_setLocal h, hforget]

variable (directive)

@[simp] theorem forgetNumber_name : directive.forgetNumber.name = directive.name := by
  rw [forgetNumber]
  split <;> rfl

@[simp] theorem forgetNumber_index : directive.forgetNumber.index = directive.index := by
  rw [forgetNumber]
  split <;> rfl

@[simp] theorem forgetNumber_used : directive.forgetNumber.used = directive.used := by
  rw [forgetNumber]
  split <;> rfl

@[simp] theorem forgetNumber_markUsed :
    directive.markUsed.forgetNumber = directive.forgetNumber.markUsed := by
  have hname : directive.markUsed.name = directive.name := rfl
  rw [forgetNumber, forgetNumber, hname, apply_ite markUsed]
  rfl

end Directive

namespace Block

open Session (repeatName)

/-! ## Blocks without traces -/

/-- A block of which nothing has been read. -/
def unread (block : Block) : Block :=
  ⟨block.header.markUnused, block.params.map Directive.markUnused⟩

/-- A block that has not been expanded: its header has not been read, and its parameters have
no number. -/
def unnumbered (block : Block) : Block :=
  ⟨block.header.markUnused, block.params.map Directive.forgetNumber⟩

/-- **The block that a later run sees,** whatever the runs before it have left. -/
def bare (block : Block) : Block :=
  if block.kind = .variable then block.unread else block.unread.unnumbered

variable (block : Block)

/-- The parameter that counts the repetitions has no number. -/
theorem param?_unnumbered : block.unnumbered.param? repeatName = block.param? repeatName := by
  obtain ⟨header, params⟩ := block
  change (params.map Directive.forgetNumber).find? (·.name = repeatName) =
    params.find? (·.name = repeatName)
  induction params with
  | nil => rfl
  | cons param rest ih =>
    by_cases h : param.name = repeatName
    · rw [List.map_cons, Directive.forgetNumber_of_repeat h, List.find?_cons_of_pos (by simpa),
        List.find?_cons_of_pos (by simpa)]
    · rw [List.map_cons, List.find?_cons_of_neg (by simpa), List.find?_cons_of_neg (by simpa), ih]

/-- The number does not say which parameter is read. -/
theorem unnumbered_useParam (name : Text) :
    (block.useParam name).unnumbered = block.unnumbered.useParam name := by
  obtain ⟨header, params⟩ := block
  refine congrArg (Block.mk header.markUnused) ?_
  change (useFirst name params).map Directive.forgetNumber =
    useFirst name (params.map Directive.forgetNumber)
  induction params with
  | nil => rfl
  | cons param rest ih =>
    rw [useFirst, List.map_cons, useFirst, Directive.forgetNumber_name]
    split
    · rw [List.map_cons, Directive.forgetNumber_markUsed]
    · rw [List.map_cons, ih]

/-- The number does not say what has been read. -/
theorem unused_unnumbered : block.unnumbered.unused = block.unused := by
  rw [unused, unused, unusedDirectives, unusedDirectives, unnumbered, List.filter_map,
    List.map_map]
  simp only [Function.comp_def, Directive.forgetNumber_used, Directive.forgetNumber_name,
    Directive.forgetNumber_index]

/-- A parameter that has been read is one of the block. -/
theorem unread_useParam (name : Text) : (block.useParam name).unread = block.unread :=
  congrArg (Block.mk block.header.markUnused) (map_useFirst (fun _ => rfl) name block.params)

/-- Marks are reset once. -/
theorem unread_resetUsage : block.resetUsage.unread = block.unread := by
  refine congrArg (Block.mk block.header.markUnused) ?_
  exact List.map_map ..

variable {block} {block' : Block}

/-- A bare block is of the same kind. -/
theorem kind_bare : block.bare.kind = block.kind := by
  rw [bare]
  split <;> rfl

/-- A block that differs in its marks only is bare in the same way. -/
theorem bare_eq_of_unread (h : block'.unread = block.unread) : block'.bare = block.bare := by
  have hkind := congrArg Block.kind h
  change block'.kind = block.kind at hkind
  rw [bare, bare, hkind, h]

/-- A block that is expanded and differs in marks and number only is bare in the same way. -/
theorem bare_eq_of_unnumbered (hexpand : block.kind ≠ .variable)
    (h : block'.unread.unnumbered = block.unread.unnumbered) : block'.bare = block.bare := by
  have hkind := congrArg Block.kind h
  change block'.kind = block.kind at hkind
  rw [bare, bare, hkind, if_neg hexpand, if_neg hexpand, h]

end Block

namespace Session

open Outcome (mapState_inj)

variable (session : Session Id) (resolver : Resolver Id) (visible : List Variable)

/-- The outcome of a block, with what has not been read. -/
def withUnused (outcome : Outcome (Session Id × Block) ResolvedBlock) :
    Outcome (Session Id × Block) ResolvedBlock :=
  outcome.map fun resolved => { resolved with unused := outcome.state.2.unused }

/-- A block that defines a variable. -/
theorem runBlock_of_variable {block : Block} (h : block.kind = .variable) :
    (session.runBlock block).run =
      withUnused (session.defineVariable block.resetUsage).run := by
  have hkind : block.resetUsage.kind = .variable := h
  rw [runBlock, hkind, Id.run_bind]
  rfl

/-- A block that is expanded. -/
theorem runBlock_of_ne {block : Block} (h : block.kind ≠ .variable) :
    (session.runBlock block).run = withUnused (session.expand block.resetUsage).run := by
  have hkind : block.resetUsage.kind ≠ .variable := h
  rw [runBlock]
  split
  · contradiction
  · rw [Id.run_bind]
    rfl

/-! ## Repetitions -/

/-- A parameter that counts the repetitions is passed over. -/
theorem readParams_cons_of_repeat {param : Directive} (h : param.name = repeatName)
    (number : Nat) (rest : List Directive) :
    (readParams resolver visible number (param :: rest)).run =
      (readParams resolver visible number rest).run.mapState (param :: ·) := by
  rw [readParams, if_pos h, Id.run_bind, Id.run_pure]

/-- Any other parameter is given the number and read. -/
theorem readParams_cons_of_ne {param : Directive} (h : param.name ≠ repeatName) (number : Nat)
    (rest : List Directive) :
    (readParams resolver visible number (param :: rest)).run =
      let numbered := param.setLocal ⟨repeatName, some (Text.ofNat number)⟩
      match (numbered.current resolver visible).run with
      | .error error => .failure error (numbered.markUsed :: rest)
      | .ok value =>
        ((readParams resolver visible number rest).run.map (⟨param.name, value⟩ :: ·)).mapState
          (numbered.markUsed :: ·) := by
  rw [readParams, if_neg h]
  simp only [Directive.value, Id.run_bind, Id.run_pure]
  cases (Directive.current resolver visible (param.setLocal _)).run <;> rfl

/-- What number a parameter has from before does not count: it is given a new one before it is
read. -/
theorem readParams_forgetNumber (number : Nat) (params : List Directive) :
    (readParams resolver visible number (params.map Directive.forgetNumber)).run.mapState
        (List.map Directive.forgetNumber) =
      (readParams resolver visible number params).run.mapState
        (List.map Directive.forgetNumber) := by
  induction params with
  | nil => rfl
  | cons param rest ih =>
    obtain ⟨hresult, hstate⟩ := mapState_inj.1 ih
    have hname := Directive.forgetNumber_name param
    rw [List.map_cons]
    by_cases h : param.name = repeatName
    · rw [readParams_cons_of_repeat resolver visible (hname.trans h),
        readParams_cons_of_repeat resolver visible h, Directive.forgetNumber_of_repeat h]
      exact mapState_inj.2 ⟨hresult, congrArg (param.forgetNumber :: ·) hstate⟩
    · rw [readParams_cons_of_ne resolver visible (hname ▸ h),
        readParams_cons_of_ne resolver visible h, Directive.setLocal_forgetNumber h, hname]
      dsimp only
      cases ((param.setLocal ⟨repeatName, some (Text.ofNat number)⟩).current
          resolver visible).run with
      | error error =>
        -- the parameters after the failure are left with the numbers they have
        have hrest : (rest.map Directive.forgetNumber).map Directive.forgetNumber =
            rest.map Directive.forgetNumber := by
          rw [List.map_map]
          exact List.map_congr_left fun _ _ => Directive.forgetNumber_forgetNumber
        exact mapState_inj.2 ⟨rfl, congrArg (_ :: ·) hrest⟩
      | ok value =>
        exact mapState_inj.2 ⟨congrArg (Except.map _) hresult, congrArg (_ :: ·) hstate⟩

/-- Reading parameters keeps them, up to their marks and the number. -/
theorem readParams_keeps (number : Nat) (params : List Directive) :
    (readParams resolver visible number params).run.state.map
        (Directive.forgetNumber ∘ Directive.markUnused) =
      params.map (Directive.forgetNumber ∘ Directive.markUnused) := by
  induction params with
  | nil => rfl
  | cons param rest ih =>
    by_cases h : param.name = repeatName
    · rw [readParams_cons_of_repeat resolver visible h]
      exact congrArg (_ :: ·) ih
    · have hnumbered : ∀ number,
          ((param.setLocal ⟨repeatName, number⟩).markUsed).markUnused.forgetNumber =
            param.markUnused.forgetNumber :=
        fun number => @Directive.forgetNumber_setLocal param.markUnused h number
      rw [readParams_cons_of_ne resolver visible h]
      dsimp only
      split
      · exact congrArg (· :: _) (hnumbered _)
      · exact List.cons_eq_cons.2 ⟨hnumbered _, ih⟩

/-- Reading depends on the parameters without their numbers. -/
theorem readParams_congr {params params' : List Directive}
    (h : params'.map Directive.forgetNumber = params.map Directive.forgetNumber)
    (number : Nat) :
    (readParams resolver visible number params').run.mapState (List.map Directive.forgetNumber) =
      (readParams resolver visible number params).run.mapState
        (List.map Directive.forgetNumber) := by
  rw [← readParams_forgetNumber, h, readParams_forgetNumber]

variable {block block' : Block}

/-- The view of a session and a block in which no number shows. -/
def unnumbered : Session Id × Block → Session Id × Block := Prod.map id Block.unnumbered

/-- A repetition, once the global variables can be seen. -/
theorem iteration_of_snapshot
    (hsnapshot : (session.globals.snapshot session.resolver).run = .ok visible) (number : Nat) :
    (session.iteration block number).run =
      let read := (readParams session.resolver visible number block.params).run
      let refreshed := (session.globals.refreshAll session.resolver).run
      match read.result with
      | .error error => .failure error (session, ⟨block.header, read.state⟩)
      | .ok fields =>
        ⟨refreshed.result.map fun _ => fields,
          (session.withGlobals refreshed.state, ⟨block.header, read.state⟩)⟩ := by
  rw [iteration, Id.run_bind, hsnapshot]
  dsimp only
  rw [Id.run_bind]
  cases (readParams session.resolver visible number block.params).run.result <;> rfl

/-- A repetition depends on the parameters without their numbers. -/
theorem iteration_congr (h : block'.unnumbered = block.unnumbered) (number : Nat) :
    (session.iteration block' number).run.mapState unnumbered =
      (session.iteration block number).run.mapState unnumbered := by
  cases hsnapshot : (session.globals.snapshot session.resolver).run with
  | error error =>
    rw [iteration, iteration, Id.run_bind, Id.run_bind, hsnapshot]
    exact mapState_inj.2 ⟨rfl, congrArg (session, ·) h⟩
  | ok visible =>
    have hheader : block'.header.markUnused = block.header.markUnused := congrArg Block.header h
    obtain ⟨hresult, hstate⟩ := mapState_inj.1
      (readParams_congr session.resolver visible (congrArg Block.params h) number)
    have hread := congrArg₂ Block.mk hheader hstate
    rw [iteration_of_snapshot session visible hsnapshot,
      iteration_of_snapshot session visible hsnapshot]
    dsimp only
    rw [hresult]
    split <;> exact mapState_inj.2 ⟨rfl, congrArg (Prod.mk _) hread⟩

/-- A repetition keeps the block, up to marks and numbers. -/
theorem iteration_keeps (number : Nat) :
    (session.iteration block number).run.state.2.unread.unnumbered = block.unread.unnumbered := by
  cases hsnapshot : (session.globals.snapshot session.resolver).run with
  | error error =>
    rw [iteration, Id.run_bind, hsnapshot]
    rfl
  | ok visible =>
    have hread :
        (⟨block.header, (readParams session.resolver visible number block.params).run.state⟩ :
          Block).unread.unnumbered = block.unread.unnumbered := by
      refine congrArg (Block.mk block.header.markUnused) ?_
      have hkeeps := readParams_keeps session.resolver visible number block.params
      rwa [← List.map_map, ← List.map_map] at hkeeps
    rw [iteration_of_snapshot session visible hsnapshot]
    dsimp only
    split <;> exact hread

/-- Repetitions go on where the one before has succeeded. -/
theorem iterations_succ (remaining number : Nat) :
    (session.iterations block (remaining + 1) number).run =
      let outcome := (session.iteration block number).run
      match outcome.result with
      | .error error => .failure error outcome.state
      | .ok fields =>
        (outcome.state.1.iterations outcome.state.2 remaining (number + 1)).run.map
          (fields :: ·) := by
  rw [iterations, Id.run_bind]
  obtain ⟨result, session', block'⟩ := (session.iteration block number).run
  cases result <;> rfl

/-- Repetitions depend on the parameters without their numbers. -/
theorem iterations_congr (h : block'.unnumbered = block.unnumbered) (remaining number : Nat) :
    (session.iterations block' remaining number).run.mapState unnumbered =
      (session.iterations block remaining number).run.mapState unnumbered := by
  induction remaining generalizing session block block' number with
  | zero => exact mapState_inj.2 ⟨rfl, congrArg (session, ·) h⟩
  | succ remaining ih =>
    obtain ⟨hresult, hstate⟩ := mapState_inj.1 (iteration_congr session h number)
    obtain ⟨hsession, hblock⟩ := Prod.mk.inj hstate
    rw [iterations_succ, iterations_succ]
    dsimp only
    rw [hresult]
    split
    · exact mapState_inj.2 ⟨rfl, hstate⟩
    · -- the two sessions are one, and the two blocks differ in numbers only, as before
      obtain ⟨hresults, hstates⟩ := mapState_inj.1
        (ih (session.iteration block number).run.state.1 hblock (number + 1))
      rw [id_eq, id_eq] at hsession
      rw [hsession]
      exact mapState_inj.2 ⟨congrArg (Except.map _) hresults, hstates⟩

/-- Repetitions keep the block, up to marks and numbers. -/
theorem iterations_keeps (remaining number : Nat) :
    (session.iterations block remaining number).run.state.2.unread.unnumbered =
      block.unread.unnumbered := by
  induction remaining generalizing session block number with
  | zero => rfl
  | succ remaining ih =>
    have hfirst := @iteration_keeps session block number
    rw [iterations_succ]
    dsimp only
    split
    · exact hfirst
    · exact (ih _ (number + 1)).trans hfirst

/-! ## Blocks that are expanded -/

/-- Counting the repetitions depends on the parameters without their numbers. -/
theorem countOf_congr (h : block'.unnumbered = block.unnumbered) :
    (countOf resolver visible block').run.mapState Block.unnumbered =
      (countOf resolver visible block).run.mapState Block.unnumbered := by
  have hparam : block'.param? repeatName = block.param? repeatName := by
    rw [← Block.param?_unnumbered, h, Block.param?_unnumbered]
  have hused : (block'.useParam repeatName).unnumbered =
      (block.useParam repeatName).unnumbered := by
    rw [Block.unnumbered_useParam, h, Block.unnumbered_useParam]
  rw [countOf_eq_ask, countOf_eq_ask, ask, ask, hparam]
  cases block.param? repeatName with
  | none => exact mapState_inj.2 ⟨rfl, h⟩
  | some param =>
    dsimp only
    rw [Id.run_bind, Id.run_bind]
    cases (param.current resolver visible).run with
    | error error => exact mapState_inj.2 ⟨rfl, hused⟩
    | ok value => exact mapState_inj.2 ⟨rfl, hused⟩

/-- Asking for a parameter marks it at most. -/
theorem ask_keeps {α : Type} (name : Text) (without : α)
    (read : Directive → Text → Except ScriptError α) :
    (ask name without read resolver visible block).run.state.unread = block.unread := by
  have hused := Block.unread_useParam block name
  rw [ask]
  cases block.param? name with
  | none => rfl
  | some param =>
    dsimp only
    rw [Id.run_bind]
    cases (param.current resolver visible).run with
    | error error => exact hused
    | ok value => exact hused

/-- A block, once the global variables can be seen. -/
theorem expand_of_snapshot
    (hsnapshot : (session.globals.snapshot session.resolver).run = .ok visible) :
    (session.expand block).run =
      match (block.header.current session.resolver visible).run with
      | .error error => .failure error (session, block.useHeader)
      | .ok data =>
        let count := (countOf session.resolver visible block.useHeader).run
        match count.result with
        | .error error => .failure error (session, count.state)
        | .ok number =>
          (session.iterations count.state number 0).run.map (.ofBlock block data) := by
  rw [expand, Id.run_bind, hsnapshot]
  dsimp only
  rw [Id.run_bind]
  cases (block.header.current session.resolver visible).run with
  | error error => rfl
  | ok data =>
    dsimp only
    rw [Id.run_bind]
    cases (countOf session.resolver visible block.useHeader).run.result <;> rfl

/-- The expansion depends on the block without marks on its header and without numbers. -/
theorem expand_congr (h : block'.unnumbered = block.unnumbered) :
    (session.expand block').run.mapState unnumbered =
      (session.expand block).run.mapState unnumbered := by
  have hheader : block'.header.markUnused = block.header.markUnused := congrArg Block.header h
  have hused : block'.useHeader.unnumbered = block.useHeader.unnumbered := h
  cases hsnapshot : (session.globals.snapshot session.resolver).run with
  | error error =>
    rw [expand, expand, Id.run_bind, Id.run_bind, hsnapshot]
    exact mapState_inj.2 ⟨rfl, congrArg (session, ·) h⟩
  | ok visible =>
    have hmark : ∀ header : Directive, header.markUnused.current session.resolver visible =
        header.current session.resolver visible := fun _ => rfl
    have hcurrent : block'.header.current session.resolver visible =
        block.header.current session.resolver visible := by
      rw [← hmark, hheader, hmark]
    rw [expand_of_snapshot session visible hsnapshot,
      expand_of_snapshot session visible hsnapshot, hcurrent]
    cases (block.header.current session.resolver visible).run with
    | error error => exact mapState_inj.2 ⟨rfl, congrArg (session, ·) hused⟩
    | ok data =>
      obtain ⟨hresult, hstate⟩ := mapState_inj.1 (countOf_congr session.resolver visible hused)
      have hofBlock : ResolvedBlock.ofBlock block' data = ResolvedBlock.ofBlock block data := by
        have hofUnnumbered := congrArg (ResolvedBlock.ofBlock · data) h
        exact hofUnnumbered
      dsimp only
      rw [hresult, hofBlock]
      split
      · exact mapState_inj.2 ⟨rfl, congrArg (session, ·) hstate⟩
      · obtain ⟨hresults, hstates⟩ := mapState_inj.1 (iterations_congr session hstate _ 0)
        exact mapState_inj.2 ⟨congrArg (Except.map _) hresults, hstates⟩

/-- The expansion keeps the block, up to marks and numbers. -/
theorem expand_keeps :
    (session.expand block).run.state.2.unread.unnumbered = block.unread.unnumbered := by
  cases hsnapshot : (session.globals.snapshot session.resolver).run with
  | error error =>
    rw [expand, Id.run_bind, hsnapshot]
    rfl
  | ok visible =>
    have hcount :
        (countOf session.resolver visible block.useHeader).run.state.unread.unnumbered =
          block.unread.unnumbered := by
      rw [countOf_eq_ask]
      exact congrArg Block.unnumbered (ask_keeps session.resolver visible _ _ _)
    rw [expand_of_snapshot session visible hsnapshot]
    dsimp only
    split
    · rfl
    · split
      · exact hcount
      · exact (iterations_keeps session _ 0).trans hcount

/-! ## Blocks that define a variable -/

/-- Defining a variable marks parameters. -/
theorem defineNamed_keeps (name : Text) :
    (session.defineNamed block name).run.state.2.unread = block.unread := by
  rw [defineNamed, Id.run_bind]
  cases (session.globals.snapshot session.resolver).run with
  | error error => rfl
  | ok visible =>
    have hpolicy :
        (policyOf session.resolver visible (block.useParam "data".toList)).run.state.unread =
          block.unread := by
      rw [policyOf_eq_ask]
      exact (ask_keeps session.resolver visible _ _ _).trans (Block.unread_useParam block _)
    dsimp only
    rw [Id.run_bind]
    cases (policyOf session.resolver visible (block.useParam "data".toList)).run.result with
    | error error => exact hpolicy
    | ok policy =>
      dsimp only
      rw [Id.run_bind]
      split
      · exact hpolicy
      · rw [Id.run_bind]
        split <;> exact hpolicy

/-- A block that defines a variable is kept, up to its marks. -/
theorem defineVariable_keeps :
    (session.defineVariable block).run.state.2.unread = block.unread := by
  rw [defineVariable]
  split
  · exact defineNamed_keeps session _
  · rfl

/-! ## Runs -/

/-- A run keeps the bare form of a block, whether it succeeds or fails. -/
theorem runBlock_keeps : (session.runBlock block).run.state.2.bare = block.bare := by
  by_cases h : block.kind = .variable
  · rw [runBlock_of_variable session h]
    exact Block.bare_eq_of_unread
      ((defineVariable_keeps session).trans (Block.unread_resetUsage block))
  · have hreset := congrArg Block.unnumbered (Block.unread_resetUsage block)
    rw [runBlock_of_ne session h]
    exact Block.bare_eq_of_unnumbered h ((expand_keeps session).trans hreset)

/-- What has not been read does not depend on the number either. -/
theorem withUnused_congr {outcome outcome' : Outcome (Session Id × Block) ResolvedBlock}
    (h : outcome'.mapState unnumbered = outcome.mapState unnumbered) :
    (withUnused outcome').mapState Prod.fst = (withUnused outcome).mapState Prod.fst := by
  obtain ⟨hresult, hstate⟩ := mapState_inj.1 h
  obtain ⟨hsession, hblock⟩ := Prod.mk.inj hstate
  have hunused : outcome'.state.2.unused = outcome.state.2.unused := by
    rw [← Block.unused_unnumbered, hblock, Block.unused_unnumbered]
  refine mapState_inj.2 ⟨?_, hsession⟩
  rw [withUnused, withUnused, hunused]
  exact congrArg (Except.map _) hresult

/-- **The result of a block depends on its bare form,** and so do the global variables
after it. -/
theorem runBlock_congr (h : block'.bare = block.bare) :
    (session.runBlock block').run.mapState Prod.fst =
      (session.runBlock block).run.mapState Prod.fst := by
  have hkind : block'.kind = block.kind := by
    rw [← Block.kind_bare, h, Block.kind_bare]
  rw [Block.bare, Block.bare, hkind] at h
  by_cases hvariable : block.kind = .variable
  · -- the header is marked before it is read, so the outcomes are equal as a whole
    rw [if_pos hvariable, if_pos hvariable] at h
    have hunread : ∀ block : Block,
        session.defineVariable block.unread = session.defineVariable block.resetUsage :=
      fun _ => rfl
    rw [runBlock_of_variable session hvariable,
      runBlock_of_variable session (hkind.trans hvariable), ← hunread, h, hunread]
  · rw [if_neg hvariable, if_neg hvariable] at h
    rw [runBlock_of_ne session hvariable, runBlock_of_ne session (hkind ▸ hvariable)]
    exact withUnused_congr (expand_congr session h)

/-- Blocks are run until one fails. -/
theorem runBlocks_cons (rest : List Block) :
    (session.runBlocks (block :: rest)).run =
      let outcome := (session.runBlock block).run
      match outcome.result with
      | .error error => .failure error (outcome.state.1, outcome.state.2 :: rest)
      | .ok resolved =>
        ((outcome.state.1.runBlocks rest).run.map (resolved :: ·)).mapState
          (Prod.map id (outcome.state.2 :: ·)) := by
  rw [runBlocks, Id.run_bind]
  obtain ⟨result, session', block'⟩ := (session.runBlock block).run
  cases result <;> rfl

/-- A run keeps the bare form of every block, those after a failure included. -/
theorem runBlocks_keeps (blocks : List Block) :
    (session.runBlocks blocks).run.state.2.map Block.bare = blocks.map Block.bare := by
  induction blocks generalizing session with
  | nil => rfl
  | cons block rest ih =>
    have hfirst := @runBlock_keeps session block
    rw [runBlocks_cons]
    dsimp only
    split
    · exact congrArg (· :: _) hfirst
    · exact List.cons_eq_cons.2 ⟨hfirst, ih _⟩

/-- The results of blocks depend on their bare forms. -/
theorem runBlocks_congr {blocks blocks' : List Block}
    (h : blocks'.map Block.bare = blocks.map Block.bare) :
    (session.runBlocks blocks').run.mapState Prod.fst =
      (session.runBlocks blocks).run.mapState Prod.fst := by
  induction blocks generalizing session blocks' with
  | nil =>
    rw [List.map_nil, List.map_eq_nil_iff] at h
    rw [h]
  | cons block rest ih =>
    obtain ⟨block', rest', rfl, hblock, hrest⟩ := List.map_eq_cons_iff.1 h
    obtain ⟨hresult, hsession⟩ := mapState_inj.1 (runBlock_congr session hblock)
    rw [runBlocks_cons, runBlocks_cons]
    dsimp only
    rw [hresult, hsession]
    split
    · rfl
    · obtain ⟨hresults, hsessions⟩ :=
        mapState_inj.1 (ih (session.runBlock block).run.state.1 hrest)
      exact mapState_inj.2 ⟨congrArg (Except.map _) hresults, hsessions⟩

end Session

/-! ## Scripts that have been run -/

namespace Script

/-- The blocks of a script, each in its bare form. -/
def bare (script : Script) : Script := ⟨script.blocks.map Block.bare⟩

/-- **A script after runs** in sessions that may have any resolvers and global variables,
each run on what the one before has left, succeeding or failing. -/
def afterRuns (script : Script) (earlier : List (Session Id)) : Script :=
  earlier.foldl (fun script session => (session.run script).run.state.2) script

/-- Runs keep the bare form. -/
theorem bare_afterRuns (script : Script) (earlier : List (Session Id)) :
    (script.afterRuns earlier).bare = script.bare := by
  induction earlier generalizing script with
  | nil => rfl
  | cons session rest ih =>
    have hrun : (session.run script).run.state.2.bare = script.bare :=
      congrArg Script.mk (session.runBlocks_keeps script.blocks)
    exact (ih _).trans hrun

/-- **Earlier runs leave nothing that a run can see.** A session gives the same result on a
script that has been run before as on one that has not: the same blocks with the same records
and the same unread parameters, or the same error; and it ends with the same global variables.
A new session and one that has been reset are sessions without global variables and are
covered by this. -/
theorem run_afterRuns (script : Script) (earlier : List (Session Id)) (session : Session Id) :
    (session.run (script.afterRuns earlier)).run.mapState Prod.fst =
      (session.run script).run.mapState Prod.fst := by
  have hblocks := congrArg Script.blocks (bare_afterRuns script earlier)
  obtain ⟨hresult, hsession⟩ := Outcome.mapState_inj.1 (session.runBlocks_congr hblocks)
  exact Outcome.mapState_inj.2 ⟨hresult, hsession⟩

/-- There are traces: this script is not the same after a run. -/
example :
    (ofSource "0:Wall\n  size:1".toList).toOption.map (fun script =>
        decide (script.afterRuns [Session.start (Resolver.of .empty .standard)] = script)) =
      some false := by
  decide +kernel

end Script

end MapScript
