/-
Where the errors of a run point.

Errors of headers and parameters point at lines of the source, because no run moves a directive.
A global variable is held by a container: it has the number of the header, and for its text the
name and the data of the variable. Its errors come up wherever the globals are looked at, and
they show a text that the source need not have.

The two cases exclude each other and there is no third (`errors_pointsAt_iff`), and in neither of
them an error of a line wraps another one (`errors_wrapNoLine`). What carries
the argument is that every directive of a run is at a place where an error may point: a
parameter at a line of the source (`Block.InSource`), a container at the place of a block that
defines a variable (`Session.Sound`).
-/
import MapScript.Proofs.ErrorLines
import MapScript.Proofs.Parameters

set_option autoImplicit false

namespace MapScript

open ScriptError (OfResolution PointsAt AtPlace)

/-! ## Containers in the place of lines -/

/-- The text that the container of a variable has for its line: the name and the data of the
variable. -/
def Block.containerLine (block : Block) : Text :=
  block.header.internal.data.getD [] ++
    ':' :: ((block.param? "data".toList).bind (·.internal.data)).getD []

/-- The places of the containers of a script: each has the number of a header. -/
def Script.ContainerAt (script : Script) (index : Nat) (line : Text) : Prop :=
  ∃ block ∈ script.blocks, block.kind = .variable ∧ index = block.header.index ∧
    line = block.containerLine

/-- **An error that shows a container in the place of a line:** it has the number of the header
of a variable, and a text that is not that line. -/
def ScriptError.AtContainer (source : Text) (script : Script) (Own : ScriptError → Prop)
    (error : ScriptError) : Prop :=
  ∃ block ∈ script.blocks, block.kind = .variable ∧
    source.HasLine block.header.index block.header.line ∧
    block.containerLine ≠ block.header.line ∧
    ∃ cause, OfResolution Own cause ∧
      error = .unresolvedLine block.header.index block.containerLine cause

variable {source : Text} {Own : ScriptError → Prop} {m : Type → Type} [Monad m] [LawfulMonad m]
  {places : Nat → Text → Prop}

/-! ## Blocks -/

namespace Block

variable {block : Block}

/-- Reading a parameter leaves it where it is. -/
theorem InSource.useParam (h : block.InSource source) (name : Text) :
    (block.useParam name).InSource source := by
  refine ⟨h.header, fun param hparam => ?_⟩
  have hplaces : (block.useParam name).params.map (fun param => (param.index, param.line)) =
      block.params.map fun param => (param.index, param.line) :=
    map_useFirst (fun _ => rfl) name block.params
  have hmem : (param.index, param.line) ∈ block.params.map fun param => (param.index, param.line) :=
    hplaces ▸ List.mem_map_of_mem hparam
  obtain ⟨old, hold, heq⟩ := List.mem_map.1 hmem
  obtain ⟨hindex, hline⟩ := Prod.mk.inj heq
  rw [← hindex, ← hline]
  exact h.params old hold

/-- A parameter that is found is a line of the source. -/
theorem InSource.param? (h : block.InSource source) {name : Text} {param : Directive}
    (hparam : block.param? name = some param) : source.HasLine param.index param.line :=
  h.params param (List.mem_of_find?_eq_some hparam)

/-- Resetting the marks moves nothing. -/
theorem InSource.resetUsage (h : block.InSource source) : block.resetUsage.InSource source := by
  refine ⟨h.header, fun param hparam => ?_⟩
  obtain ⟨unmarked, hmem, rfl⟩ := List.mem_map.1 hparam
  exact h.params unmarked hmem

/-- The marks do not show in the line of the container. -/
theorem containerLine_resetUsage (block : Block) :
    block.resetUsage.containerLine = block.containerLine := by
  rw [containerLine, containerLine, param?_resetUsage]
  cases block.param? "data".toList <;> rfl

end Block

namespace Session

/-- **An error of a run:** one that points at a line of the source, or one of a container. -/
def Reported (source : Text) (places : Nat → Text → Prop) (Own : ScriptError → Prop)
    (error : ScriptError) : Prop :=
  error.PointsAt source Own ∨ error.AtPlace places Own

/-- The functions of the session have errors of their own, and its containers are at certain
places. -/
structure Sound (places : Nat → Text → Prop) (Own : ScriptError → Prop) (session : Session m) :
    Prop where
  functions : session.resolver.registry.ErrorsIn Own
  globals : Globals.AllAt places session.globals.entries

/-- What reading one parameter of a block leaves. -/
def ReadsAt {α : Type} (source : Text) (Own : ScriptError → Prop) (block : Block)
    (outcome : Outcome Block α) : Prop :=
  outcome.state.header = block.header ∧ outcome.state.InSource source ∧
    OnError (PointsAt source Own) outcome.result

/-- What a step of a run leaves: a sound session, a block with the lines it had, and an error
that is one of a run. -/
def StepsAt {α : Type} (source : Text) (places : Nat → Text → Prop) (Own : ScriptError → Prop)
    (outcome : Outcome (Session m × Block) α) : Prop :=
  outcome.state.1.Sound places Own ∧ outcome.state.2.InSource source ∧
    OnError (Reported source places Own) outcome.result

omit [LawfulMonad m] in
/-- What is made of the value of a step leaves nothing else. -/
theorem StepsAt.map {α β : Type} {outcome : Outcome (Session m × Block) α}
    (h : StepsAt source places Own outcome) (f : α → β) :
    StepsAt source places Own (outcome.map f) :=
  ⟨h.1, h.2.1, h.2.2.map f⟩

variable {session : Session m} {block : Block}

/-- A snapshot of a session that is sound. -/
theorem Sound.snapshot (h : session.Sound places Own) :
    SatisfiesM (OnError (AtPlace places Own)) (session.globals.snapshot session.resolver) :=
  Globals.snapshot_onError h.functions h.globals

section Parameters

variable {resolver : Resolver m} (hresolver : resolver.registry.ErrorsIn Own)
  (hblock : block.InSource source) (visible : List Variable)

include hresolver hblock

/-- What is asked of a parameter is reported at its line. -/
theorem ask_onError {α : Type} (name : Text) (without : α)
    {read : Directive → Text → Except ScriptError α}
    (hread : ∀ param text, source.HasLine param.index param.line →
      OnError (PointsAt source Own) (read param text)) :
    SatisfiesM (ReadsAt source Own block) (ask name without read resolver visible block) := by
  have hused := hblock.useParam name
  rw [ask]
  cases hparam : block.param? name with
  | none => exact .pure ⟨rfl, hblock, .ok without⟩
  | some param =>
    have hline := hblock.param? hparam
    refine (Directive.current_onError hresolver hline visible).bind fun result hresult => ?_
    cases result with
    | error error => exact .pure ⟨rfl, hused, .error (hresult error rfl).pointsAt⟩
    | ok value => exact .pure ⟨rfl, hused, hread param _ hline⟩

/-- A policy that is none is reported at the line of its parameter. -/
theorem policyOf_onError :
    SatisfiesM (ReadsAt source Own block) (policyOf resolver visible block) := by
  rw [policyOf_eq_ask]
  refine ask_onError hresolver hblock visible _ _ fun param text hline => ?_
  rw [readPolicy]
  split
  · exact .ok _
  · exact .error (.malformedLine hline _)

/-- A number that is none is reported at the line of its parameter. -/
theorem countOf_onError :
    SatisfiesM (ReadsAt source Own block) (countOf resolver visible block) := by
  rw [countOf_eq_ask]
  refine ask_onError hresolver hblock visible _ _ fun param text hline => ?_
  rw [readCount]
  split
  · exact .ok _
  · exact .error (.malformedLine hline _)

end Parameters

/-- The parameters of a repetition stay where they are. -/
theorem readParams_onError {resolver : Resolver m} (hresolver : resolver.registry.ErrorsIn Own)
    {params : List Directive} (hparams : ∀ param ∈ params, source.HasLine param.index param.line)
    (visible : List Variable) (number : Nat) :
    SatisfiesM
      (fun outcome : Outcome (List Directive) (List Field) =>
        (∀ param ∈ outcome.state, source.HasLine param.index param.line) ∧
          OnError (PointsAt source Own) outcome.result)
      (readParams resolver visible number params) := by
  induction params with
  | nil => exact .pure ⟨hparams, .ok []⟩
  | cons param rest ih =>
    obtain ⟨hparam, hrest⟩ := List.forall_mem_cons.1 hparams
    rw [readParams]
    split
    · refine (ih hrest).bind fun later hlater => .pure ?_
      exact ⟨List.forall_mem_cons.2 ⟨hparam, hlater.1⟩, hlater.2⟩
    · have hnumbered : source.HasLine
          (param.setLocal ⟨repeatName, some (Text.ofNat number)⟩).index
          (param.setLocal ⟨repeatName, some (Text.ofNat number)⟩).line := hparam
      refine (Directive.value_onError hresolver hnumbered visible).bind fun read hread => ?_
      obtain ⟨hstate, herror⟩ := hread
      split
      · rename_i error heq
        refine .pure ⟨?_, .error (herror error heq).pointsAt⟩
        exact List.forall_mem_cons.2 ⟨hstate, hrest⟩
      · refine (ih hrest).bind fun later hlater => .pure ?_
        exact ⟨List.forall_mem_cons.2 ⟨hstate, hlater.1⟩, hlater.2.map _⟩

/-! ## Steps of a run -/

/-- A repetition reports its parameters, or the containers it looks at. -/
theorem iteration_onError (hsession : session.Sound places Own) (hblock : block.InSource source)
    (number : Nat) :
    SatisfiesM (StepsAt source places Own) (session.iteration block number) := by
  rw [iteration]
  refine hsession.snapshot.bind fun result hresult => ?_
  cases result with
  | error error => exact .pure ⟨hsession, hblock, .error (.inr (hresult error rfl))⟩
  | ok visible =>
    refine (readParams_onError hsession.functions hblock.params visible number).bind
      fun read hread => ?_
    have hparams : Block.InSource source { block with params := read.state } :=
      ⟨hblock.header, hread.1⟩
    dsimp only
    split
    · rename_i error heq
      exact .pure ⟨hsession, hparams, .error (.inl (hread.2 error heq))⟩
    · refine (Globals.refreshAll_onError hsession.functions hsession.globals).bind
        fun refreshed hrefreshed => .pure ?_
      refine ⟨⟨hsession.functions, hrefreshed.1⟩, hparams, ?_⟩
      exact (hrefreshed.2.map _).imp fun error => Or.inr

/-- So do several repetitions. -/
theorem iterations_onError (hsession : session.Sound places Own)
    (hblock : block.InSource source) (remaining number : Nat) :
    SatisfiesM (StepsAt source places Own) (session.iterations block remaining number) := by
  induction remaining generalizing session block number with
  | zero => exact .pure ⟨hsession, hblock, .ok []⟩
  | succ remaining ih =>
    rw [iterations]
    refine (iteration_onError hsession hblock number).bind fun outcome houtcome => ?_
    obtain ⟨result, session', block'⟩ := outcome
    obtain ⟨hsession', hblock', herror⟩ := houtcome
    cases result with
    | error error => exact .pure ⟨hsession', hblock', .error (herror error rfl)⟩
    | ok fields =>
      exact (ih hsession' hblock' (number + 1)).bind fun later hlater => .pure (hlater.map _)

/-- A block that is expanded reports its lines, or the containers it looks at. -/
theorem expand_onError (hsession : session.Sound places Own) (hblock : block.InSource source) :
    SatisfiesM (StepsAt source places Own) (session.expand block) := by
  have hused : block.useHeader.InSource source := ⟨hblock.header, hblock.params⟩
  rw [expand]
  refine hsession.snapshot.bind fun result hresult => ?_
  cases result with
  | error error => exact .pure ⟨hsession, hblock, .error (.inr (hresult error rfl))⟩
  | ok visible =>
    refine (Directive.current_onError hsession.functions hblock.header visible).bind
      fun result hresult => ?_
    cases result with
    | error error =>
      exact .pure ⟨hsession, hused, .error (.inl (hresult error rfl).pointsAt)⟩
    | ok data =>
      refine (countOf_onError hsession.functions hused visible).bind fun count hcount => ?_
      obtain ⟨-, hstate, herror⟩ := hcount
      split
      · rename_i error heq
        exact .pure ⟨hsession, hstate, .error (.inl (herror error heq))⟩
      · exact (iterations_onError hsession hstate _ 0).bind fun outcome houtcome =>
          .pure (houtcome.map _)

/-- A block that defines a variable puts a container at its place. -/
theorem defineNamed_onError (hsession : session.Sound places Own)
    (hblock : block.InSource source) {name : Text}
    (hplace : places block.header.index
      (name ++ ':' :: ((block.param? "data".toList).bind (·.internal.data)).getD [])) :
    SatisfiesM (StepsAt source places Own) (session.defineNamed block name) := by
  have hdata := hblock.useParam "data".toList
  rw [defineNamed]
  refine hsession.snapshot.bind fun result hresult => ?_
  cases result with
  | error error => exact .pure ⟨hsession, hblock, .error (.inr (hresult error rfl))⟩
  | ok visible =>
    refine (policyOf_onError hsession.functions hdata visible).bind fun policy hpolicy => ?_
    obtain ⟨hheader, hstate, herror⟩ := hpolicy
    split
    · rename_i error heq
      exact .pure ⟨hsession, hstate, .error (.inl (herror error heq))⟩
    · rename_i kind heq
      -- asking for the policy has left the header, whose number the container takes
      have hindex : policy.state.header.index = block.header.index :=
        congrArg Directive.index hheader
      rw [← hindex] at hplace
      refine (Globals.define_onError hsession.functions hsession.globals hplace kind).bind
        fun defined hdefined => ?_
      obtain ⟨⟨hglobals, herror'⟩, hname⟩ := hdefined
      have hsession' : (session.withGlobals defined.state).Sound places Own :=
        ⟨hsession.functions, hglobals⟩
      split
      · rename_i error heq
        exact .pure ⟨hsession', hstate, .error (.inr (herror' error heq))⟩
      · rename_i heq
        refine (Globals.valueOf_onError hsession.functions hglobals (hname heq)).bind
          fun value hvalue => ?_
        cases value with
        | error error => exact .pure ⟨hsession', hstate, .error (.inr (hvalue error rfl))⟩
        | ok value => exact .pure ⟨hsession', hstate, .ok _⟩

/-- A block that defines no variable says so in its header. -/
theorem defineVariable_onError (hsession : session.Sound places Own)
    (hblock : block.InSource source) (hplace : places block.header.index block.containerLine) :
    SatisfiesM (StepsAt source places Own) (session.defineVariable block) := by
  have hused : block.useHeader.InSource source := ⟨hblock.header, hblock.params⟩
  rw [defineVariable]
  split
  · rename_i c name hdata
    rw [Block.containerLine, hdata] at hplace
    exact defineNamed_onError hsession hused hplace
  · exact .pure ⟨hsession, hused, .error (.inl (.malformedLine hblock.header _))⟩

/-! ## Runs -/

/-- A block reports its lines, or containers. -/
theorem runBlock_onError (hsession : session.Sound places Own) (hblock : block.InSource source)
    (hplace : block.kind = .variable → places block.header.index block.containerLine) :
    SatisfiesM (StepsAt source places Own) (session.runBlock block) := by
  have hreset := hblock.resetUsage
  rw [runBlock]
  split
  · rename_i hkind
    rw [← Block.containerLine_resetUsage] at hplace
    exact (defineVariable_onError hsession hreset (hplace hkind)).bind fun outcome houtcome =>
      .pure (houtcome.map _)
  · exact (expand_onError hsession hreset).bind fun outcome houtcome => .pure (houtcome.map _)

/-- So do several blocks. -/
theorem runBlocks_onError (hsession : session.Sound places Own) {blocks : List Block}
    (hblocks : ∀ block ∈ blocks, block.InSource source)
    (hplaces : ∀ block ∈ blocks, block.kind = .variable →
      places block.header.index block.containerLine) :
    SatisfiesM
      (fun outcome : Outcome (Session m × List Block) (List ResolvedBlock) =>
        OnError (Reported source places Own) outcome.result)
      (session.runBlocks blocks) := by
  induction blocks generalizing session with
  | nil => exact .pure (.ok [])
  | cons block rest ih =>
    obtain ⟨hblock, hrest⟩ := List.forall_mem_cons.1 hblocks
    obtain ⟨hplace, hplacesRest⟩ := List.forall_mem_cons.1 hplaces
    rw [runBlocks]
    refine (runBlock_onError hsession hblock hplace).bind fun outcome houtcome => ?_
    obtain ⟨result, session', block'⟩ := outcome
    obtain ⟨hsession', -, herror⟩ := houtcome
    cases result with
    | error error => exact .pure (.error (herror error rfl))
    | ok resolved =>
      exact (ih hsession' hrest hplacesRest).bind fun later hlater => .pure (hlater.map _)

/-- **The errors of a run in a new session** point at lines of the source, or are those of
containers. -/
theorem run_onError {resolver : Resolver m} (hresolver : resolver.registry.ErrorsIn Own)
    {script : Script} (hblocks : ∀ block ∈ script.blocks, block.InSource source) :
    SatisfiesM
      (fun outcome : Outcome (Session m × Script) (List ResolvedBlock) =>
        OnError (Reported source script.ContainerAt Own) outcome.result)
      ((start resolver).run script) := by
  have hsession : (start resolver).Sound script.ContainerAt Own :=
    ⟨hresolver, fun _ hentry => nomatch hentry⟩
  rw [run]
  refine (runBlocks_onError hsession hblocks fun block hblock hkind => ?_).bind
    fun outcome houtcome => .pure houtcome
  exact ⟨block, hblock, hkind, rfl, rfl⟩

end Session

/-! ## Where the errors of a script point -/

namespace Script

/-- The error of a container shows a line of the source only where the container's text is
the header's. -/
theorem pointsAt_iff_not_atContainer {script : Script}
    (hblocks : ∀ block ∈ script.blocks, block.InSource source) {error : ScriptError}
    (h : Session.Reported source script.ContainerAt Own error) :
    error.PointsAt source Own ↔ ¬ error.AtContainer source script Own := by
  constructor
  · rintro hpoints ⟨block, hblock, hkind, hline, hne, cause, hcause, rfl⟩
    exact hne ((hpoints.hasLine rfl).unique hline)
  · intro hnot
    rcases h with hpoints | ⟨index, line, cause, ⟨block, hblock, hkind, rfl, rfl⟩, hcause, rfl⟩
    · exact hpoints
    · have hline := (hblocks block hblock).header
      by_cases heq : block.containerLine = block.header.line
      · rw [heq]
        exact .unresolvedLine hline hcause
      · exact absurd ⟨block, hblock, hkind, hline, heq, cause, hcause, rfl⟩ hnot

/-- **No error of a line wraps another one,** neither in parsing nor in a run in a new session,
where the errors of the functions themselves are without a line. -/
theorem errors_wrapNoLine (resolver : Resolver m) (hresolver : resolver.registry.ErrorsIn Own)
    (hOwn : ∀ error, Own error → error.IsLineless) (source : Text) :
    OnError ScriptError.WrapsNoLine (ofSource source) ∧
      ∀ script, ofSource source = .ok script →
        SatisfiesM
          (fun outcome : Outcome (Session m × Script) (List ResolvedBlock) =>
            OnError ScriptError.WrapsNoLine outcome.result)
          ((Session.start resolver).run script) := by
  obtain ⟨herror, hblocks⟩ := @ofSource_inSource Own source
  refine ⟨herror.imp fun error h => h.wrapsNoLine hOwn, fun script hscript => ?_⟩
  refine (Session.run_onError hresolver (hblocks script hscript)).imp fun h => ?_
  -- it makes no difference whether the line is one of the source or that of a container
  refine h.imp fun error hreported => ?_
  rcases hreported with hpoints | hplace
  · exact hpoints.wrapsNoLine hOwn
  · exact hplace.wrapsNoLine hOwn

/-- **An error of parsing points at a line of the source, and an error of a run in a new session
does so exactly if it is not that of a container** whose text is not the line of its header.
This holds of every source and of all functions and limits, also of functions that draw random
numbers. -/
theorem errors_pointsAt_iff (resolver : Resolver m)
    (hresolver : resolver.registry.ErrorsIn Own) (source : Text) :
    OnError (PointsAt source Own) (ofSource source) ∧
      ∀ script, ofSource source = .ok script →
        SatisfiesM
          (fun outcome : Outcome (Session m × Script) (List ResolvedBlock) =>
            OnError
              (fun error => error.PointsAt source Own ↔ ¬ error.AtContainer source script Own)
              outcome.result)
          ((Session.start resolver).run script) := by
  obtain ⟨herror, hblocks⟩ := ofSource_inSource source
  refine ⟨herror, fun script hscript => ?_⟩
  refine (Session.run_onError hresolver (hblocks script hscript)).imp fun h => ?_
  exact h.imp fun error => pointsAt_iff_not_atContainer (hblocks script hscript)

/-- A resolver of one function, which refuses whatever it is given. -/
def refusing : Resolver Id :=
  .of ⟨[("f".toList, fun arguments => arguments.refuse "no".toList)]⟩ .standard

/-- The function that refuses is called in a parameter. No variable is defined, so the error
points at the line of the parameter. -/
theorem errors_pointsAt_iff_of_refusal :
    refusing.registry.ErrorsIn (∃ function message, · = .functionArgument function message) ∧
    ∃ script error, ofSource "0:wall\n  size:f(1)".toList = .ok script ∧
      ((Session.start refusing).run script).run.result = .error error ∧
      error.PointsAt "0:wall\n  size:f(1)".toList
        (∃ function message, · = .functionArgument function message) := by
  have hfunctions : refusing.registry.ErrorsIn
      (∃ function message, · = .functionArgument function message) := by
    intro entry hentry arguments
    obtain rfl := List.mem_singleton.1 hentry
    rw [SatisfiesM_Id_eq]
    exact .error ⟨_, _, rfl⟩
  have hrun : ((ofSource "0:wall\n  size:f(1)".toList).toOption.any fun script =>
      script.blocks.all (fun block => block.kind != .variable) &&
        !((Session.start refusing).run script).run.result.isOk) = true := by
    decide +kernel
  refine ⟨hfunctions, ?_⟩
  cases hscript : ofSource "0:wall\n  size:f(1)".toList with
  | error error =>
    rw [hscript] at hrun
    cases hrun
  | ok script =>
    rw [hscript] at hrun
    obtain ⟨hkinds, hfails⟩ := Bool.and_eq_true_iff.1 hrun
    cases hresult : ((Session.start refusing).run script).run.result with
    | ok blocks =>
      rw [hresult] at hfails
      cases hfails
    | error error =>
      have hpoints := (errors_pointsAt_iff refusing hfunctions _).2 script hscript
      rw [SatisfiesM_Id_eq] at hpoints
      refine ⟨script, error, rfl, hresult, (hpoints error hresult).2 ?_⟩
      rintro ⟨block, hblock, hkind, -⟩
      exact absurd hkind (bne_iff_ne.1 (List.all_eq_true.1 hkinds block hblock))

/-- What the error of a result shows, if it is that of an unresolved line. -/
def shownBy {α : Type} : Except ScriptError α → Option (Nat × Text)
  | .ok _ => none
  | .error error => error.unresolvedAt?

/-- The data of a variable end inside an expression. The error has the number of the header and
a text that is no line of the source. -/
theorem not_pointsAt_of_container :
    ∃ script error, ofSource "var:x\n  data:\x7b1+".toList = .ok script ∧
      ((Session.start (Resolver.of (.empty : Registry Id) .standard)).run script).run.result =
        .error error ∧
      ∀ Own, ¬ error.PointsAt "var:x\n  data:\x7b1+".toList Own := by
  have hrun : ((ofSource "var:x\n  data:\x7b1+".toList).toOption.bind fun script =>
      shownBy ((Session.start (Resolver.of (.empty : Registry Id) .standard)).run
        script).run.result) = some (1, "x:\x7b1+".toList) := by
    decide +kernel
  cases hscript : ofSource "var:x\n  data:\x7b1+".toList with
  | error error =>
    rw [hscript] at hrun
    cases hrun
  | ok script =>
    rw [hscript] at hrun
    cases hresult : ((Session.start (Resolver.of (.empty : Registry Id) .standard)).run
        script).run.result with
    | ok blocks =>
      have hnone := (congrArg shownBy hresult).symm.trans hrun
      cases hnone
    | error error =>
      have hshown := (congrArg shownBy hresult).symm.trans hrun
      refine ⟨script, error, rfl, hresult, fun Own hpoints => ?_⟩
      have hheader : Text.HasLine "var:x\n  data:\x7b1+".toList 1 "var:x".toList := ⟨0, rfl, rfl⟩
      exact absurd ((hpoints.hasLine hshown).unique hheader) (by decide)

end Script

end MapScript
