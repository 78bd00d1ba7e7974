/-
A run that succeeds strictly gives the same leniently.

The mode reaches a run through its resolutions only. There one resolver follows another
(`Resolver.Follows`): whatever the strict one resolves, the lenient one resolves to the same text
(`follows_withLenient`). Everything else in a run reads, keeps and compares the texts that come out
of resolutions, and it stops at the first of them that fails. So a run that succeeds strictly is
made of resolutions that succeed strictly, and the lenient run makes the same ones in lock step:
for every step of a run it is said that the outcome, if it is a success, is also the outcome with
the resolver that follows. For a step inside one table or one block the outcomes are equal; a step
of a session leaves the resolver in the session, and the two sessions agree in all else
(`Session.LockStep`).
-/
import MapScript.Proofs.Resolution
import MapScript.Proofs.Tables
import MapScript.Proofs.Traces

set_option autoImplicit false

namespace MapScript

/-! ## Outcomes that are successes -/

namespace Outcome

variable {σ τ α β : Type} {outcome : Outcome σ α}

/-- A failure is no success. -/
theorem failure_ne_success {error : ScriptError} {value : α} {state state' : σ} :
    (failure error state' : Outcome σ α) ≠ success value state := nofun

/-- A success with another value comes from a success. -/
theorem map_eq_success_iff {f : α → β} {value : β} {state : σ} :
    outcome.map f = success value state ↔
      ∃ before, outcome = success before state ∧ f before = value := by
  obtain ⟨result, state'⟩ := outcome
  cases result with
  | error error => exact ⟨fun h => absurd h failure_ne_success, fun ⟨_, h, _⟩ => nomatch h⟩
  | ok before =>
    constructor
    · rintro ⟨⟩
      exact ⟨before, rfl, rfl⟩
    · rintro ⟨_, ⟨⟩, rfl⟩
      rfl

/-- So does one with another state. -/
theorem mapState_eq_success_iff {f : σ → τ} {value : α} {state : τ} :
    outcome.mapState f = success value state ↔
      ∃ before, outcome = success value before ∧ f before = state := by
  obtain ⟨result, before⟩ := outcome
  constructor
  · rintro ⟨⟩
    exact ⟨before, rfl, rfl⟩
  · rintro ⟨_, ⟨⟩, rfl⟩
    rfl

/-- What goes on only with a value succeeds if there is one and it succeeds with it. -/
theorem run_bind_of_value_iff {x : Id (Except ScriptError α)}
    {next : Except ScriptError α → Id (Outcome τ β)}
    (hfails : ∀ error, (next (.error error)).run.result = .error error) {value : β} {state : τ} :
    (x >>= next).run = success value state ↔
      ∃ read, x.run = .ok read ∧ (next (.ok read)).run = success value state := by
  rw [Id.run_bind]
  cases x.run with
  | error error =>
    have hfailed := hfails error
    constructor
    · intro h
      rw [h] at hfailed
      cases hfailed
    · rintro ⟨_, ⟨⟩, _⟩
  | ok read =>
    constructor
    · exact fun h => ⟨read, rfl, h⟩
    · rintro ⟨_, ⟨⟩, h⟩
      exact h

/-- So does what goes on only with a success, the state of which it takes over. -/
theorem run_bind_iff {x : Id (Outcome σ α)} {next : Outcome σ α → Id (Outcome τ β)}
    (hfails : ∀ error before, (next (failure error before)).run.result = .error error)
    {value : β} {state : τ} :
    (x >>= next).run = success value state ↔
      ∃ read before, x.run = success read before ∧
        (next (success read before)).run = success value state := by
  rw [Id.run_bind]
  obtain ⟨error | read, before⟩ := x.run
  · have hfailed := hfails error before
    constructor
    · intro h
      rw [failure, h] at hfailed
      cases hfailed
    · rintro ⟨_, _, ⟨⟩, _⟩
  · constructor
    · exact fun h => ⟨read, before, rfl, h⟩
    · rintro ⟨_, _, ⟨⟩, h⟩
      exact h

end Outcome

open Outcome (failure_ne_success map_eq_success_iff mapState_eq_success_iff run_bind_of_value_iff
  run_bind_iff)

/-! ## Resolvers -/

namespace Resolver

/-- **A resolver follows another one:** what that one resolves, it resolves to the same text. -/
def Follows (resolver' resolver : Resolver Id) : Prop :=
  ∀ scope input text, (resolver.resolve scope input).run = .ok text →
    (resolver'.resolve scope input).run = .ok text

/-- The same resolver in one of the two modes. -/
def withLenient (resolver : Resolver Id) (lenient : Bool) : Resolver Id :=
  { resolver with config := { resolver.config with lenient := lenient } }

/-- The passes of a resolution are the same for both modes. -/
theorem passes_withLenient (resolver : Resolver Id) (lenient lenient' : Bool) (scope : Scope)
    (remaining : Nat) (progress : Progress) :
    (resolver.withLenient lenient).passes scope lenient' remaining progress =
      resolver.passes scope lenient' remaining progress := by
  induction remaining generalizing progress with
  | zero => rfl
  | succ remaining ih =>
    have hpass : (resolver.withLenient lenient).pass scope progress = resolver.pass scope progress :=
      resolver.pass_eq_of_limits resolver.config.maxPasses lenient scope progress
    rw [passes, passes, hpass]
    refine congrArg (resolver.pass scope progress >>= ·) (funext fun next => ?_)
    rw [ih]

/-- A resolver in a mode resolves in this mode. -/
theorem resolve_withLenient (resolver : Resolver Id) (lenient : Bool) (scope : Scope)
    (input : Text) :
    (resolver.withLenient lenient).resolve scope input =
      resolver.resolveWith lenient scope input :=
  passes_withLenient resolver lenient lenient scope resolver.config.maxPasses ⟨input, none⟩

/-- **What is resolved strictly is resolved leniently to the same text.** -/
theorem follows_withLenient (resolver : Resolver Id) :
    (resolver.withLenient true).Follows (resolver.withLenient false) := by
  intro scope input text h
  rw [resolve_withLenient] at h ⊢
  rcases resolver.runsOn_or_settlesAt scope input resolver.config.maxPasses with
    hruns | ⟨n, hn, hsettles⟩
  · rw [resolveWith_of_runsOn false hruns] at h
    cases h
  · rw [resolveWith_of_settlesAt _ hsettles hn] at h ⊢
    rw [Progress.result_true, Progress.text_eq_of_result h]

end Resolver

/-! ## Directives -/

section LockStep

variable {resolver resolver' : Resolver Id} (hfollows : resolver'.Follows resolver)

include hfollows

namespace Directive

variable {visible : List Variable} {directive : Directive} {value : Option Text}

/-- Data that have been resolved. -/
theorem resolveData_follows (h : (directive.resolveData resolver visible).run = .ok value) :
    (directive.resolveData resolver' visible).run = .ok value := by
  rw [resolveData] at h ⊢
  cases hdata : directive.internal.data with
  | none =>
    rw [hdata] at h
    exact h
  | some data =>
    rw [hdata] at h
    dsimp only at h ⊢
    rw [Id.run_bind] at h ⊢
    cases htext : (resolver.resolve ⟨directive.locals, visible⟩ data).run with
    | error error =>
      rw [htext] at h
      cases h
    | ok text =>
      rw [htext] at h
      rw [hfollows _ _ _ htext]
      exact h

/-- A value that has been read. -/
theorem current_follows (h : (directive.current resolver visible).run = .ok value) :
    (directive.current resolver' visible).run = .ok value := by
  by_cases hpolicy : directive.policy = .onEveryRead
  · rw [current_of_onEveryRead hpolicy] at h ⊢
    exact resolveData_follows hfollows h
  cases hkept : directive.kept with
  | none =>
    rw [current_of_kept_eq_none hkept] at h ⊢
    exact resolveData_follows hfollows h
  | some kept =>
    rw [current_of_kept hkept hpolicy] at h ⊢
    exact h

end Directive

/-! ## Tables -/

namespace Globals

variable {visible vars : List Variable} {entries before done : List Directive}
  {entry entry' : Directive} {globals globals' : Globals} {name data : Text}
  {policy : ResolvePolicy} {index : Nat}

/-- Entries that have been read. -/
theorem snapshotFrom_follows (h : (snapshotFrom resolver visible entries).run = .ok vars) :
    (snapshotFrom resolver' visible entries).run = .ok vars := by
  induction entries generalizing visible with
  | nil => exact h
  | cons entry rest ih =>
    rw [snapshotFrom_cons] at h ⊢
    cases hvalue : (entry.current resolver visible).run with
    | error error =>
      rw [hvalue] at h
      cases h
    | ok value =>
      rw [hvalue] at h
      rw [Directive.current_follows hfollows hvalue]
      exact ih h

/-- A variable that has been read. -/
theorem valueOf_follows {text : Text} (h : (globals.valueOf resolver name).run = .ok text) :
    (globals.valueOf resolver' name).run = .ok text := by
  rw [valueOf, Id.run_bind] at h ⊢
  cases hvars : (globals.snapshot resolver).run with
  | error error =>
    rw [hvars] at h
    cases h
  | ok vars =>
    have hvars' : (globals.snapshot resolver').run = .ok vars := snapshotFrom_follows hfollows hvars
    rw [hvars] at h
    rw [hvars']
    exact h

/-- An entry that has been built. -/
theorem entryAfter_follows (h : entryAfter resolver before name data policy index = .ok entry) :
    entryAfter resolver' before name data policy index = .ok entry := by
  obtain ⟨visible, text, hvisible, htext, rfl⟩ := of_entryAfter_eq_ok h
  rw [entryAfter, snapshotFrom_follows hfollows hvisible]
  dsimp only
  rw [Directive.container_eq, Id.run_bind, hfollows _ _ _ htext]
  rfl

/-- A variable that has been defined. -/
theorem define_follows
    (h : (globals.define resolver name data policy index).run = .success () globals') :
    (globals.define resolver' name data policy index).run = .success () globals' := by
  rw [define_eq] at h ⊢
  cases hentry : entryAfter resolver (globals.entries.take (globals.placeOf name)) name data
      policy index with
  | error error =>
    rw [hentry] at h
    exact absurd h failure_ne_success
  | ok entry =>
    rw [hentry] at h
    rw [entryAfter_follows hfollows hentry]
    exact h

/-- An entry that has been refreshed. -/
theorem RefreshesTo.follows (h : RefreshesTo resolver before entry entry') :
    RefreshesTo resolver' before entry entry' := by
  cases h with
  | passed hpolicy => exact .passed hpolicy
  | recomputed hpolicy hvisible hdata =>
    exact .recomputed hpolicy (snapshotFrom_follows hfollows hvisible)
      (Directive.resolveData_follows hfollows hdata)

/-- Entries that have been refreshed. -/
theorem refreshFrom_follows
    (h : (refreshFrom resolver done entries).run = .success () globals') :
    (refreshFrom resolver' done entries).run = .success () globals' := by
  induction entries generalizing done with
  | nil => exact h
  | cons entry rest ih =>
    obtain ⟨entry', hentry, hrest⟩ := of_refreshFrom_cons_eq_success h
    rw [refreshFrom_cons_of_refreshesTo (hentry.follows hfollows)]
    exact ih hrest

end Globals

/-! ## Parameters -/

namespace Session

variable {visible : List Variable} {block block' : Block}

/-- A parameter that has been asked for. -/
theorem ask_follows {α : Type} {name : Text} {without value : α}
    {read : Directive → Text → Except ScriptError α}
    (h : (ask name without read resolver visible block).run = .success value block') :
    (ask name without read resolver' visible block).run = .success value block' := by
  rw [ask] at h ⊢
  cases hparam : block.param? name with
  | none =>
    rw [hparam] at h
    exact h
  | some param =>
    rw [hparam] at h
    obtain ⟨text, htext, h⟩ := (run_bind_of_value_iff fun _ => rfl).1 h
    have htext' := Directive.current_follows hfollows htext
    exact (run_bind_of_value_iff fun _ => rfl).2 ⟨text, htext', h⟩

/-- Parameters of a repetition that have been read. -/
theorem readParams_follows {number : Nat} {params params' : List Directive} {fields : List Field}
    (h : (readParams resolver visible number params).run = .success fields params') :
    (readParams resolver' visible number params).run = .success fields params' := by
  induction params generalizing fields params' with
  | nil => exact h
  | cons param rest ih =>
    by_cases hname : param.name = repeatName
    · rw [readParams_cons_of_repeat _ _ hname] at h ⊢
      obtain ⟨rest', hrest, rfl⟩ := mapState_eq_success_iff.1 h
      rw [ih hrest]
      rfl
    · rw [readParams_cons_of_ne _ _ hname] at h ⊢
      dsimp only at h ⊢
      cases hvalue : ((param.setLocal ⟨repeatName, some (Text.ofNat number)⟩).current
          resolver visible).run with
      | error error =>
        rw [hvalue] at h
        exact absurd h failure_ne_success
      | ok value =>
        rw [hvalue] at h
        obtain ⟨rest', hmap, rfl⟩ := mapState_eq_success_iff.1 h
        obtain ⟨later, hlater, rfl⟩ := map_eq_success_iff.1 hmap
        rw [Directive.current_follows hfollows hvalue, ih hlater]
        rfl

end Session

end LockStep

/-! ## Steps of a run -/

namespace Session

variable {resolver resolver' : Resolver Id} {globals : Globals} {block : Block}

/-- **A lock step** of a session and one with a resolver that follows: if the first succeeds, the
second succeeds with the same value, and they leave the same except for their resolvers. -/
def LockStep {α β : Type} (resolver resolver' : Resolver Id)
    (outcome outcome' : Outcome (Session Id × α) β) : Prop :=
  ∀ value session rest, outcome = .success value (session, rest) →
    ∃ globals, session = ⟨resolver, globals⟩ ∧
      outcome' = .success value (⟨resolver', globals⟩, rest)

/-- What is made of the value does not break the step. -/
theorem LockStep.map {α β γ : Type} {outcome outcome' : Outcome (Session Id × α) β}
    (h : LockStep resolver resolver' outcome outcome') (f : β → γ) :
    LockStep resolver resolver' (outcome.map f) (outcome'.map f) := by
  intro value session rest hsuccess
  obtain ⟨before, hbefore, rfl⟩ := map_eq_success_iff.1 hsuccess
  obtain ⟨globals, hsession, houtcome⟩ := h before session rest hbefore
  exact ⟨globals, hsession, by rw [houtcome]; rfl⟩

/-- Nor does it matter what has not been read. -/
theorem LockStep.withUnused {outcome outcome' : Outcome (Session Id × Block) ResolvedBlock}
    (h : LockStep resolver resolver' outcome outcome') :
    LockStep resolver resolver' (withUnused outcome) (withUnused outcome') := by
  intro resolved session block' hsuccess
  obtain ⟨before, hbefore, rfl⟩ := map_eq_success_iff.1 hsuccess
  obtain ⟨globals, hsession, houtcome⟩ := h before session block' hbefore
  exact ⟨globals, hsession, by rw [houtcome, hbefore]; rfl⟩

section

variable (hfollows : resolver'.Follows resolver)

include hfollows

/-- Repetitions go in lock step. -/
theorem iteration_lockStep (number : Nat) :
    LockStep resolver resolver' (iteration ⟨resolver, globals⟩ block number).run
      (iteration ⟨resolver', globals⟩ block number).run := by
  intro fields session block' h
  rw [iteration] at h ⊢
  obtain ⟨visible, hvisible, h⟩ := (run_bind_of_value_iff fun _ => rfl).1 h
  obtain ⟨values, params, hread, h⟩ := (run_bind_iff fun _ _ => rfl).1 h
  obtain ⟨_, refreshed, hrefreshed, h⟩ := (run_bind_iff fun _ _ => rfl).1 h
  cases h
  refine ⟨refreshed, rfl, ?_⟩
  refine (run_bind_of_value_iff fun _ => rfl).2 ⟨visible, ?_, ?_⟩
  · exact Globals.snapshotFrom_follows hfollows hvisible
  refine (run_bind_iff fun _ _ => rfl).2 ⟨_, params, readParams_follows hfollows hread, ?_⟩
  exact (run_bind_iff fun _ _ => rfl).2
    ⟨(), refreshed, Globals.refreshFrom_follows hfollows hrefreshed, rfl⟩

/-- So do several of them. -/
theorem iterations_lockStep (remaining number : Nat) :
    LockStep resolver resolver' (iterations ⟨resolver, globals⟩ block remaining number).run
      (iterations ⟨resolver', globals⟩ block remaining number).run := by
  induction remaining generalizing globals block number with
  | zero =>
    rintro records session block' ⟨⟩
    exact ⟨globals, rfl, rfl⟩
  | succ remaining ih =>
    intro records session block' h
    rw [iterations] at h ⊢
    obtain ⟨fields, ⟨_, middle⟩, hfirst, h⟩ := (run_bind_iff fun _ _ => rfl).1 h
    obtain ⟨between, rfl, hfirst'⟩ := iteration_lockStep hfollows number _ _ _ hfirst
    obtain ⟨after, rfl, hlater⟩ := (ih (number + 1)).map (fields :: ·) _ _ _ h
    exact ⟨after, rfl, (run_bind_iff fun _ _ => rfl).2 ⟨_, _, hfirst', hlater⟩⟩

/-- Blocks are expanded in lock step. -/
theorem expand_lockStep :
    LockStep resolver resolver' (expand ⟨resolver, globals⟩ block).run
      (expand ⟨resolver', globals⟩ block).run := by
  intro resolved session block' h
  rw [expand] at h ⊢
  obtain ⟨visible, hvisible, h⟩ := (run_bind_of_value_iff fun _ => rfl).1 h
  obtain ⟨data, hdata, h⟩ := (run_bind_of_value_iff fun _ => rfl).1 h
  obtain ⟨number, counted, hcount, h⟩ := (run_bind_iff fun _ _ => rfl).1 h
  rw [countOf_eq_ask] at hcount
  obtain ⟨after, rfl, hrecords⟩ := (iterations_lockStep hfollows number 0).map _ _ _ _ h
  refine ⟨after, rfl, ?_⟩
  refine (run_bind_of_value_iff fun _ => rfl).2 ⟨visible, ?_, ?_⟩
  · exact Globals.snapshotFrom_follows hfollows hvisible
  refine (run_bind_of_value_iff fun _ => rfl).2 ⟨data, ?_, ?_⟩
  · exact Directive.current_follows hfollows hdata
  refine (run_bind_iff fun _ _ => rfl).2 ⟨number, counted, ?_, hrecords⟩
  rw [countOf_eq_ask]
  exact ask_follows hfollows hcount

/-- Variables are defined in lock step. -/
theorem defineNamed_lockStep (name : Text) :
    LockStep resolver resolver' (defineNamed ⟨resolver, globals⟩ block name).run
      (defineNamed ⟨resolver', globals⟩ block name).run := by
  intro resolved session block' h
  rw [defineNamed] at h ⊢
  obtain ⟨visible, hvisible, h⟩ := (run_bind_of_value_iff fun _ => rfl).1 h
  obtain ⟨policy, asked, hpolicy, h⟩ := (run_bind_iff fun _ _ => rfl).1 h
  obtain ⟨_, defined, hdefined, h⟩ := (run_bind_iff fun _ _ => rfl).1 h
  obtain ⟨value, hvalue, h⟩ := (run_bind_of_value_iff fun _ => rfl).1 h
  cases h
  rw [policyOf_eq_ask] at hpolicy
  refine ⟨defined, rfl, ?_⟩
  refine (run_bind_of_value_iff fun _ => rfl).2 ⟨visible, ?_, ?_⟩
  · exact Globals.snapshotFrom_follows hfollows hvisible
  refine (run_bind_iff fun _ _ => rfl).2 ⟨policy, asked, ?_, ?_⟩
  · rw [policyOf_eq_ask]
    exact ask_follows hfollows hpolicy
  refine (run_bind_iff fun _ _ => rfl).2 ⟨(), defined, ?_, ?_⟩
  · exact Globals.define_follows hfollows hdefined
  exact (run_bind_of_value_iff fun _ => rfl).2
    ⟨value, Globals.valueOf_follows hfollows hvalue, rfl⟩

/-- So are those of headers, which have to name one. -/
theorem defineVariable_lockStep :
    LockStep resolver resolver' (defineVariable ⟨resolver, globals⟩ block).run
      (defineVariable ⟨resolver', globals⟩ block).run := by
  rw [defineVariable, defineVariable]
  split
  · exact defineNamed_lockStep hfollows _
  · exact fun _ _ _ h => absurd h failure_ne_success

/-- Blocks are run in lock step. -/
theorem runBlock_lockStep :
    LockStep resolver resolver' (runBlock ⟨resolver, globals⟩ block).run
      (runBlock ⟨resolver', globals⟩ block).run := by
  by_cases hkind : block.kind = .variable
  · rw [runBlock_of_variable _ hkind, runBlock_of_variable _ hkind]
    exact (defineVariable_lockStep hfollows).withUnused
  · rw [runBlock_of_ne _ hkind, runBlock_of_ne _ hkind]
    exact (expand_lockStep hfollows).withUnused

/-- So are several of them. -/
theorem runBlocks_lockStep (blocks : List Block) :
    LockStep resolver resolver' (runBlocks ⟨resolver, globals⟩ blocks).run
      (runBlocks ⟨resolver', globals⟩ blocks).run := by
  induction blocks generalizing globals with
  | nil =>
    rintro resolved session blocks' ⟨⟩
    exact ⟨globals, rfl, rfl⟩
  | cons block rest ih =>
    intro resolved session blocks' h
    rw [runBlocks] at h ⊢
    obtain ⟨first, ⟨_, block'⟩, hfirst, h⟩ := (run_bind_iff fun _ _ => rfl).1 h
    obtain ⟨between, rfl, hfirst'⟩ := runBlock_lockStep hfollows _ _ _ hfirst
    dsimp only [Outcome.success] at h
    rw [Id.run_bind, Id.run_pure] at h
    obtain ⟨⟨_, rest'⟩, hmap, hstate⟩ := mapState_eq_success_iff.1 h
    obtain ⟨after, rfl, hlater⟩ := ih.map (first :: ·) _ _ _ hmap
    cases hstate
    refine ⟨after, rfl, (run_bind_iff fun _ _ => rfl).2 ⟨_, _, hfirst', ?_⟩⟩
    dsimp only [Outcome.success]
    rw [Id.run_bind, Id.run_pure]
    exact mapState_eq_success_iff.2 ⟨_, hlater, rfl⟩

/-- Scripts are run in lock step. -/
theorem run_lockStep (script : Script) :
    LockStep resolver resolver' (run ⟨resolver, globals⟩ script).run
      (run ⟨resolver', globals⟩ script).run := by
  intro resolved session script' h
  rw [run, Id.run_bind, Id.run_pure] at h ⊢
  obtain ⟨⟨_, blocks⟩, hblocks, hstate⟩ := mapState_eq_success_iff.1 h
  obtain ⟨after, rfl, hblocks'⟩ := runBlocks_lockStep hfollows script.blocks _ _ _ hblocks
  cases hstate
  exact ⟨after, rfl, mapState_eq_success_iff.2 ⟨_, hblocks', rfl⟩⟩

end

/-- The same session in one of the two modes. -/
def withLenient (session : Session Id) (lenient : Bool) : Session Id :=
  { session with resolver := session.resolver.withLenient lenient }

/-- **The lenient mode only adds results.** Of every script, a run that succeeds strictly gives
leniently the same blocks, with their records, data and unread parameters; and it leaves the same
global variables and the same script. The functions, the limits and the global variables that the
session has before are any. -/
theorem run_withLenient (session : Session Id) (script : Script) (blocks : List ResolvedBlock)
    (h : ((session.withLenient false).run script).run.result = .ok blocks) :
    ((session.withLenient true).run script).run.result = .ok blocks ∧
      ((session.withLenient true).run script).run.state.1.globals =
        ((session.withLenient false).run script).run.state.1.globals ∧
      ((session.withLenient true).run script).run.state.2 =
        ((session.withLenient false).run script).run.state.2 := by
  rcases hstrict : ((session.withLenient false).run script).run with ⟨result, after, script'⟩
  rw [hstrict] at h
  cases h
  obtain ⟨globals, rfl, hlenient⟩ :=
    run_lockStep session.resolver.follows_withLenient script _ _ _ hstrict
  have hsame : ((session.withLenient true).run script).run =
      .success blocks (⟨session.resolver.withLenient true, globals⟩, script') := hlenient
  rw [hsame]
  exact ⟨rfl, rfl, rfl⟩

/-- A variable that is computed on every refresh, and a block that is repeated as often as the
variable says. -/
def counted : Text := "var:n\n  data:2\n  recompute:1\n0:wall\n  repeat:n\n  size:n,repeat".toList

/-- The values of a resolved block, record by record. -/
def valuesOf (block : ResolvedBlock) : List (List (Option Text)) :=
  block.records.map (·.map (·.value))

/-- Strictly this script gives the record of the variable and two records that count up, and
leniently the same. -/
theorem run_withLenient_counted :
    ∃ script blocks, Script.ofSource counted = .ok script ∧
      (((start .withoutFunctions).withLenient false).run script).run.result = .ok blocks ∧
      blocks.map valuesOf = [[[some ['2']]], [[some "2,0".toList], [some "2,1".toList]]] ∧
      (((start .withoutFunctions).withLenient true).run script).run.result = .ok blocks := by
  have hvalues : (Script.ofSource counted).toOption.bind (fun script =>
      (((start .withoutFunctions).withLenient false).run script).run.result.toOption.map
        (·.map valuesOf)) =
      some [[[some ['2']]], [[some "2,0".toList], [some "2,1".toList]]] := by
    decide +kernel
  cases hscript : Script.ofSource counted with
  | error error =>
    rw [hscript] at hvalues
    cases hvalues
  | ok script =>
    rw [hscript, Except.toOption, Option.bind_some] at hvalues
    cases hstrict : (((start .withoutFunctions).withLenient false).run script).run.result with
    | error error =>
      rw [hstrict] at hvalues
      cases hvalues
    | ok blocks =>
      rw [hstrict] at hvalues
      have hlenient := run_withLenient (start .withoutFunctions) script blocks hstrict
      exact ⟨script, blocks, rfl, hstrict, Option.some.inj hvalues, hlenient.1⟩

end Session

end MapScript
