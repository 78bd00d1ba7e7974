/-
What is left of the global variables when a block fails to define one.

A block defines its variable and then reads it back, and to read one variable is to compute all
those that are computed on every read. A failure before the definition leaves the table as it is.
After it the new entry is in the table, and it stays there when the reading fails
(`runBlock_onFailure_of_parts`).

What can fail then is a variable that is computed on every read. If functions are deterministic,
this is none of those before the new entry, which have just been read, and not the new entry, which
has just been computed. So it is one after the new entry, and the name was defined before: the
block has put a value in its place that another variable cannot be computed from (`Obstructs`).
Nothing takes the new value back, so that the table cannot be read any more.
-/
import MapScript.Proofs.ErrorLines
import MapScript.Proofs.Parameters
import MapScript.Proofs.Tables

set_option autoImplicit false

namespace MapScript

/-! ## Entries that fail to be read -/

section Reading

variable {m : Type → Type} [Monad m] [LawfulMonad m]

namespace Directive

/-- A directive that is computed whenever it is read. -/
def IsLive (directive : Directive) : Prop :=
  directive.kept = none ∨ directive.policy = .onEveryRead

/-- An error of reading a directive: it is live, and the error has its place. -/
def Reports (directive : Directive) (error : ScriptError) : Prop :=
  directive.IsLive ∧ ∃ cause, error = .unresolvedLine directive.index directive.line cause

/-- An error of the resolution has the place of the directive. -/
theorem resolveData_reports (resolver : Resolver m) (visible : List Variable)
    {directive : Directive} (hlive : directive.IsLive) :
    SatisfiesM (OnError directive.Reports) (directive.resolveData resolver visible) := by
  have hfunctions : resolver.registry.ErrorsIn fun _ => True :=
    fun _ _ _ => SatisfiesM.trivial.imp fun _ _ _ => trivial
  let place (index : Nat) (line : Text) : Prop := index = directive.index ∧ line = directive.line
  have hplace : place directive.index directive.line := ⟨rfl, rfl⟩
  refine (resolveData_onError hfunctions hplace visible).imp fun h error herror => ?_
  obtain ⟨index, line, cause, ⟨rfl, rfl⟩, -, rfl⟩ := h error herror
  exact ⟨hlive, cause, rfl⟩

/-- A directive that is not live is read without an error. -/
theorem current_reports (resolver : Resolver m) (visible : List Variable)
    (directive : Directive) :
    SatisfiesM (OnError directive.Reports) (directive.current resolver visible) := by
  rcases Option.eq_none_or_eq_some directive.kept with hkept | ⟨kept, hkept⟩
  · rw [current_of_kept_eq_none hkept]
    exact resolveData_reports resolver visible (.inl hkept)
  · by_cases hpolicy : directive.policy = .onEveryRead
    · rw [current_of_onEveryRead hpolicy]
      exact resolveData_reports resolver visible (.inr hpolicy)
    · rw [current_of_kept hkept hpolicy]
      exact .pure (.ok _)

/-- A directive that cannot be read is live. -/
theorem isLive_of_current_eq_error {resolver : Resolver Id} {visible : List Variable}
    {directive : Directive} {error : ScriptError}
    (h : (directive.current resolver visible).run = .error error) : directive.IsLive :=
  (SatisfiesM_Id_eq.1 (current_reports resolver visible directive) error h).1

end Directive

namespace Globals

/-- An error of reading entries is that of one of them. -/
theorem snapshotFrom_reports (resolver : Resolver m) (visible : List Variable)
    (entries : List Directive) :
    SatisfiesM
      (fun result : Except ScriptError (List Variable) =>
        OnError (fun error => ∃ entry ∈ entries, entry.Reports error) result ∧
          ∀ vars, result = .ok vars →
            vars.map (·.name) = visible.map (·.name) ++ entries.map (·.name))
      (snapshotFrom resolver visible entries) := by
  induction entries generalizing visible with
  | nil =>
    refine .pure ⟨.ok visible, fun vars heq => ?_⟩
    cases heq
    exact (List.append_nil _).symm
  | cons entry rest ih =>
    rw [snapshotFrom]
    refine (Directive.current_reports resolver visible entry).bind fun result hresult => ?_
    cases result with
    | error error =>
      refine .pure ⟨.error ⟨entry, List.mem_cons_self, hresult error rfl⟩, fun vars heq => ?_⟩
      cases heq
    | ok data =>
      refine (ih _).imp fun hrest => ⟨hrest.1.imp ?_, fun vars heq => ?_⟩
      · rintro error ⟨later, hlater, hreports⟩
        exact ⟨later, List.mem_cons_of_mem entry hlater, hreports⟩
      · rw [hrest.2 vars heq, List.map_append, List.append_assoc]
        rfl

/-- So is an error of reading a variable that is defined. -/
theorem valueOf_reports (resolver : Resolver m) {globals : Globals} {name : Text}
    (hname : name ∈ globals.entries.map (·.name)) :
    SatisfiesM (OnError fun error => ∃ entry ∈ globals.entries, entry.Reports error)
      (globals.valueOf resolver name) := by
  rw [valueOf]
  refine (snapshotFrom_reports resolver [] globals.entries).bind fun result hresult => ?_
  cases result with
  | error error => exact .pure (.error (hresult.1 error rfl))
  | ok visible =>
    have hvisible : name ∈ visible.map (·.name) := by
      rw [hresult.2 visible rfl]
      exact hname
    obtain ⟨found, hrequire⟩ := Scope.exists_require_eq_ok hvisible
    dsimp only
    rw [hrequire]
    exact .pure (.ok _)

/-- If the value of a variable that is in the table cannot be read, the table cannot. -/
theorem snapshot_of_valueOf_eq_error {resolver : Resolver Id} {globals : Globals} {name : Text}
    {error : ScriptError} (hname : name ∈ globals.entries.map (·.name))
    (h : (globals.valueOf resolver name).run = .error error) :
    (snapshotFrom resolver [] globals.entries).run = .error error := by
  rw [valueOf, Id.run_bind, snapshot] at h
  cases hvars : (snapshotFrom resolver [] globals.entries).run with
  | error error' =>
    rw [hvars] at h
    cases h
    rfl
  | ok vars =>
    rw [← names_of_snapshotFrom hvars] at hname
    obtain ⟨found, hrequire⟩ := Scope.exists_require_eq_ok hname
    rw [hvars] at h
    dsimp only at h
    rw [hrequire] at h
    cases h

end Globals

end Reading

/-! ## Blocks that fail to define a variable -/

/-- The data that a block gives to its variable. -/
def Block.givenData (block : Block) : Text :=
  ((block.param? "data".toList).bind (·.internal.data)).getD []

/-- The marks of a run do not show in them. -/
theorem Block.givenData_useHeader_resetUsage (block : Block) :
    block.resetUsage.useHeader.givenData = block.givenData := by
  change block.resetUsage.givenData = block.givenData
  rw [givenData, givenData, param?_resetUsage]
  cases block.param? "data".toList <;> rfl

namespace Session

section Failures

variable {m : Type → Type} [Monad m] [LawfulMonad m] {session : Session m} {block : Block}

/-- What a failure leaves of the global variables. -/
def OnFailure (P : ScriptError → Globals → Prop)
    (outcome : Outcome (Session m × Block) ResolvedBlock) : Prop :=
  ∀ error, outcome.result = .error error → P error outcome.state.1.globals

/-- Asking for the policy leaves the header. -/
theorem policyOf_header (resolver : Resolver m) (visible : List Variable) (block : Block) :
    SatisfiesM (fun outcome : Outcome Block ResolvePolicy => outcome.state.header = block.header)
      (policyOf resolver visible block) := by
  rw [policyOf_eq_ask, ask]
  cases block.param? "recompute".toList with
  | none => exact .pure rfl
  | some param =>
    refine SatisfiesM.trivial.bind fun result _ => ?_
    cases result with
    | error error => exact .pure rfl
    | ok value => exact .pure rfl

section Parts

variable (Seen : Prop) (Defined : Text → ResolvePolicy → Globals → Prop)
  (Unread : Text → Globals → ScriptError → Prop)

/-- **A definition fails before it has changed anything, or when the variable is read back.** The
parts of the run are parameters here: `Seen` holds if the table can be read at first, `Defined` of
the table after the definition, and `Unread` of an error of reading the variable there. -/
theorem defineNamed_onFailure (session : Session m) (block : Block) (name : Text)
    (hseen : SatisfiesM (fun result => ∀ visible, result = .ok visible → Seen)
      (session.globals.snapshot session.resolver))
    (hdefine : ∀ policy, SatisfiesM
      (fun outcome : Outcome Globals Unit =>
        (∀ error, outcome.result = .error error → outcome.state = session.globals) ∧
        (outcome.result = .ok () → Defined name policy outcome.state))
      (session.globals.define session.resolver name block.givenData policy block.header.index))
    (hread : ∀ policy left, Defined name policy left →
      SatisfiesM (OnError (Unread name left)) (left.valueOf session.resolver name)) :
    SatisfiesM
      (OnFailure fun error left => left = session.globals ∨
        Seen ∧ ∃ policy, Defined name policy left ∧ Unread name left error)
      (session.defineNamed block name) := by
  rw [defineNamed]
  refine hseen.bind fun result hresult => ?_
  cases result with
  | error error => exact .pure fun _ _ => .inl rfl
  | ok visible =>
    refine (policyOf_header session.resolver visible (block.useParam "data".toList)).bind
      fun policy hheader => ?_
    split
    · exact .pure fun _ _ => .inl rfl
    · rename_i kind hkind
      have hindex : policy.state.header.index = block.header.index :=
        congrArg Directive.index hheader
      rw [← hindex] at hdefine
      refine (hdefine kind).bind fun defined hspec => ?_
      obtain ⟨hfailed, hdefined⟩ := hspec
      obtain ⟨result, left⟩ := defined
      cases result with
      | error error => exact .pure fun _ _ => .inl (hfailed error rfl)
      | ok value =>
        -- from here on the new entry is in the table
        refine (hread kind left (hdefined rfl)).bind fun value hvalue => ?_
        cases value with
        | ok value => exact .pure fun error h => nomatch h
        | error error =>
          refine .pure fun error' herror => ?_
          cases herror
          exact .inr ⟨hresult visible rfl, kind, hdefined rfl, hvalue error rfl⟩

/-- So does a block: its header names the variable, or nothing is defined. -/
theorem runBlock_onFailure_of_parts (session : Session m) (hkind : block.kind = .variable)
    (hseen : SatisfiesM (fun result => ∀ visible, result = .ok visible → Seen)
      (session.globals.snapshot session.resolver))
    (hdefine : ∀ name policy, SatisfiesM
      (fun outcome : Outcome Globals Unit =>
        (∀ error, outcome.result = .error error → outcome.state = session.globals) ∧
        (outcome.result = .ok () → Defined name policy outcome.state))
      (session.globals.define session.resolver name block.givenData policy block.header.index))
    (hread : ∀ name policy left, Defined name policy left →
      SatisfiesM (OnError (Unread name left)) (left.valueOf session.resolver name)) :
    SatisfiesM
      (OnFailure fun error left => left = session.globals ∨
        Seen ∧ ∃ name policy, block.header.internal.data = some name ∧ Defined name policy left ∧
          Unread name left error)
      (session.runBlock block) := by
  have hreset : block.resetUsage.kind = .variable := hkind
  have hblock : SatisfiesM
      (OnFailure fun error left => left = session.globals ∨
        Seen ∧ ∃ name policy, block.header.internal.data = some name ∧ Defined name policy left ∧
          Unread name left error)
      (session.defineVariable block.resetUsage) := by
    rw [defineVariable]
    split
    · rename_i c name hname
      rw [← block.givenData_useHeader_resetUsage] at hdefine
      refine (defineNamed_onFailure Seen Defined Unread session block.resetUsage.useHeader
        (c :: name) hseen (hdefine _) (hread _)).imp fun h error herror => ?_
      rcases h error herror with hkeeps | ⟨hseen', policy, hdefined, hunread⟩
      · exact .inl hkeeps
      · exact .inr ⟨hseen', c :: name, policy, hname, hdefined, hunread⟩
    · exact .pure fun _ _ => .inl rfl
  rw [runBlock, hreset]
  -- listing what has not been read changes a success only
  refine hblock.bind fun outcome houtcome => .pure fun error herror => ?_
  obtain ⟨result, state⟩ := outcome
  cases result with
  | ok resolved => cases herror
  | error error' =>
    cases herror
    exact houtcome error rfl

end Parts

/-- **A table that a block leaves without being able to read it:** its variable is there, and an
entry that is computed on every read fails. -/
def LeavesUnread (block : Block) (globals left : Globals) (error : ScriptError) : Prop :=
  ∃ name policy text, block.header.internal.data = some name ∧
    left = globals.place (globals.position? name)
      (.holding name block.givenData policy block.header.index text) ∧
    ∃ entry ∈ left.entries, entry.Reports error

/-- **Whatever the functions do,** there is no other way of changing the table and failing. -/
theorem runBlock_keeps_or_leavesUnread (session : Session m) (hkind : block.kind = .variable) :
    SatisfiesM
      (OnFailure fun error left =>
        left = session.globals ∨ LeavesUnread block session.globals left error)
      (session.runBlock block) := by
  refine (runBlock_onFailure_of_parts True
    (fun name policy left => ∃ text, left = session.globals.place (session.globals.position? name)
      (.holding name block.givenData policy block.header.index text))
    (fun _ left error => ∃ entry ∈ left.entries, entry.Reports error) session hkind
    (SatisfiesM.trivial.imp fun _ _ _ => trivial)
    (fun name policy => Globals.define_spec session.resolver name _ policy _ session.globals)
    ?_).imp fun h error herror => ?_
  · rintro name policy left ⟨text, rfl⟩
    exact Globals.valueOf_reports session.resolver
      (List.mem_map_of_mem (Globals.container_mem_place session.globals name _))
  · rcases h error herror with hkeeps | ⟨-, name, policy, hname, ⟨text, hleft⟩, hreports⟩
    · exact .inl hkeeps
    · exact .inr ⟨name, policy, text, hname, hleft, hreports⟩

end Failures

/-! ## Deterministic functions -/

section Deterministic

variable {resolver : Resolver Id} {session : Session Id} {block : Block} {error : ScriptError}

/-- **A block that puts a value in the place of its variable that a later one cannot be computed
from:** all entries could be read before, and those up to the later one can be read with the new
value. -/
inductive Obstructs (resolver : Resolver Id) (block : Block) (error : ScriptError) :
    Globals → Globals → Prop where
  | intro {before between after : List Directive} {old later : Directive} {name text : Text}
    {policy : ResolvePolicy} {visible vars : List Variable}
    (hname : block.header.internal.data = some name) (hold : old.name = name)
    (hreadable : ∃ all, (Globals.snapshotFrom resolver []
      (before ++ old :: (between ++ later :: after))).run = .ok all)
    (hvisible : (Globals.snapshotFrom resolver [] before).run = .ok visible)
    (htext : (resolver.resolve ⟨[], visible⟩ block.givenData).run = .ok text)
    (hvars : (Globals.snapshotFrom resolver (visible ++ [⟨name, some text⟩]) between).run =
      .ok vars)
    (hlive : later.IsLive) (hlater : (later.current resolver vars).run = .error error) :
    Obstructs resolver block error ⟨before ++ old :: (between ++ later :: after)⟩
      ⟨before ++ .holding name block.givenData policy block.header.index text ::
        (between ++ later :: after)⟩

variable {name : Text} {policy : ResolvePolicy}

/-- A table that is obstructed cannot be read, so that it is not the one from before. -/
theorem Obstructs.ne {globals left : Globals} (h : Obstructs resolver block error globals left) :
    left ≠ globals := by
  intro hsame
  cases h with
  | intro hname hold hreadable hvisible htext hvars hlive hlater =>
    obtain ⟨all, hall⟩ := hreadable
    injection hsame with hentries
    -- if it were, then what could be read before would now fail at the later entry
    rw [← hentries, Globals.snapshotFrom_append_holding hvisible htext,
      Globals.snapshotFrom_append, hvars] at hall
    dsimp only at hall
    rw [Globals.snapshotFrom_cons, hlater] at hall
    cases hall

/-- **A definition that succeeds and leaves a table that cannot be read** is one of a name that has
been defined before, and obstructs a later entry. -/
theorem obstructs_of_define {globals left : Globals}
    (hname : block.header.internal.data = some name)
    (hreadable : ∃ vars, (globals.snapshot resolver).run = .ok vars)
    (hdefine : (globals.define resolver name block.givenData policy block.header.index).run =
      .success () left)
    (hread : (left.valueOf resolver name).run = .error error) :
    Obstructs resolver block error globals left := by
  rw [Globals.define_eq] at hdefine
  split at hdefine
  · rename_i entry hentry
    obtain ⟨visible, text, hvisible, htext, rfl⟩ := Globals.of_entryAfter_eq_ok hentry
    injection hdefine with hresult hleft
    have hmem : name ∈ left.entries.map (·.name) := by
      rw [← hleft]
      exact List.mem_map_of_mem (Globals.container_mem_place globals name _)
    have hunread := Globals.snapshot_of_valueOf_eq_error hmem hread
    rw [← hleft, Globals.place_eq, Globals.snapshotFrom_append_holding hvisible htext] at hunread
    rw [← hleft, Globals.place_eq]
    obtain ⟨between, later, after, vars, hrest, hvars, hlater⟩ :=
      Globals.of_snapshotFrom_eq_error hunread
    -- there are entries after the place of the name, so that it is not the end
    have hlt : globals.placeOf name < globals.size := by
      by_contra hle
      have hnone : globals.entries.drop (globals.placeOf name + 1) = [] :=
        List.drop_eq_nil_of_le (Nat.le_succ_of_le (Nat.le_of_not_lt hle))
      rw [hnone] at hrest
      exact absurd hrest.symm (List.append_ne_nil_of_right_ne_nil between (List.cons_ne_nil _ _))
    obtain ⟨old, hold, hsplit⟩ := Globals.exists_eq_append_of_placeOf_lt hlt
    rw [hrest] at hsplit ⊢
    generalize globals.entries.take (globals.placeOf name) = before at hvisible hsplit ⊢
    have hglobals : globals = ⟨before ++ old :: (between ++ later :: after)⟩ :=
      congrArg Globals.mk hsplit
    rw [hglobals] at hreadable ⊢
    exact .intro hname hold hreadable hvisible htext hvars (Directive.isLive_of_current_eq_error
      hlater) hlater
  · injection hdefine with hresult hleft
    cases hresult

/-- **With deterministic functions** a block that fails keeps the table, or obstructs a later
entry. -/
theorem runBlock_keeps_or_obstructs (session : Session Id) (hkind : block.kind = .variable)
    (hfail : (session.runBlock block).run.result = .error error) :
    (session.runBlock block).run.state.1.globals = session.globals ∨
      Obstructs session.resolver block error session.globals
        (session.runBlock block).run.state.1.globals := by
  have hparts := SatisfiesM_Id_eq.1 (runBlock_onFailure_of_parts
    (∃ vars, (session.globals.snapshot session.resolver).run = .ok vars)
    (fun name policy left => (session.globals.define session.resolver name block.givenData policy
      block.header.index).run = .success () left)
    (fun name left error => (left.valueOf session.resolver name).run = .error error) session hkind
    (SatisfiesM_Id_eq.2 fun visible hvisible => ⟨visible, hvisible⟩) (fun name policy => ?_)
    fun name policy left _ => SatisfiesM_Id_eq.2 fun error herror => herror) error hfail
  · rcases hparts with hkeeps | ⟨hreadable, name, policy, hname, hdefine, hunread⟩
    · exact .inl hkeeps
    · exact .inr (obstructs_of_define hname hreadable hdefine hunread)
  · have hspec := SatisfiesM_Id_eq.1 (Globals.define_spec session.resolver name block.givenData
      policy block.header.index session.globals)
    exact SatisfiesM_Id_eq.2 ⟨hspec.1, fun hok => congrArg (Outcome.mk · _) hok⟩

end Deterministic

/-! ## What is left of the global variables -/

/-- **A block that fails to define a variable** leaves the global variables as they were, or it
leaves its variable among them.

* Whatever the functions do, the latter only happens if an entry that is computed on every read
  fails in the new table.
* With deterministic functions it happens exactly if the block has put a value in the place of its
  variable that a later entry cannot be computed from. -/
theorem runBlock_onFailure {block : Block} (hkind : block.kind = .variable) :
    (∀ (m : Type → Type) [Monad m] [LawfulMonad m] (session : Session m),
      SatisfiesM
        (OnFailure fun error left =>
          left = session.globals ∨ LeavesUnread block session.globals left error)
        (session.runBlock block)) ∧
    ∀ (session : Session Id) (error : ScriptError),
      (session.runBlock block).run.result = .error error →
      ((session.runBlock block).run.state.1.globals ≠ session.globals ↔
        Obstructs session.resolver block error session.globals
          (session.runBlock block).run.state.1.globals) := by
  refine ⟨fun m _ _ session => runBlock_keeps_or_leavesUnread session hkind,
    fun session error hfail => ⟨fun hne => ?_, Obstructs.ne⟩⟩
  exact (runBlock_keeps_or_obstructs session hkind hfail).resolve_left hne

/-- A session with a variable and one that is computed from it on every read. -/
def dependent : Session Id :=
  ⟨.withoutFunctions, ⟨[.holding ['x'] ['1'] .onceAtCreation 1 ['1'],
    .holding ['y'] ['\\', 'x'] .onEveryRead 3 ['\\', '1']]⟩⟩

/-- A block that defines a variable. -/
def assignment (name data : Text) : Block :=
  ⟨⟨"var:".toList ++ name, 6, .variable, ⟨"var".toList, some name⟩, ⟨"var".toList, some name⟩,
      none, .onEveryRead, [], false⟩,
    [⟨"data:".toList ++ data, 7, .parameter, ⟨"data".toList, some data⟩,
      ⟨"data".toList, some data⟩, none, .onEveryRead, [], false⟩]⟩

/-- A block that gives the first variable a brace with a backslash, which resolves. -/
def escaped : Block := assignment ['x'] ['\\', '\x7b']

/-- One that gives it a brace, which does not. -/
def unescaped : Block := assignment ['x'] ['\x7b']

/-- The second variable puts another backslash before the first one, and with it the brace is an
opening one: both blocks fail, and the one that has defined its variable leaves it. -/
theorem runBlock_onFailure_dependent :
    (∃ error, (dependent.runBlock escaped).run.result = .error error ∧
      Obstructs dependent.resolver escaped error dependent.globals
        (dependent.runBlock escaped).run.state.1.globals) ∧
    ∃ error, (dependent.runBlock unescaped).run.result = .error error ∧
      ¬ Obstructs dependent.resolver unescaped error dependent.globals
        (dependent.runBlock unescaped).run.state.1.globals := by
  obtain ⟨-, hescaped⟩ := @runBlock_onFailure escaped rfl
  obtain ⟨-, hunescaped⟩ := @runBlock_onFailure unescaped rfl
  refine ⟨⟨_, rfl, (hescaped dependent _ rfl).1 fun h => ?_⟩, _, rfl,
    fun h => (hunescaped dependent _ rfl).2 h rfl⟩
  exact absurd (congrArg (fun globals : Globals => globals.entries.map (·.line)) h) (by decide)

/-- Lines that define a variable, another one that is computed from it on every read, and the first
one again. -/
def redefinition : Text :=
  "var:x\n  data:1\nvar:y\n  data:\\x\n  recompute:read\nvar:x\n  data:\\\x7b".toList

/-- The session after the first two blocks of a script. -/
def afterTwo (script : Script) : Session Id :=
  ((start Resolver.withoutFunctions).runBlocks (script.blocks.take 2)).run.state.1

/-- The data of global variables. -/
def dataOf (globals : Globals) : List Text :=
  globals.entries.map fun entry => entry.internal.data.getD []

/-- What the last block of a script of three does: its kind, whether it succeeds, and the data of
the variables before and after it. -/
def lastBlock (script : Script) : Option (Bool × Bool × List Text × List Text) :=
  script.blocks[2]?.map fun block =>
    let outcome := ((afterTwo script).runBlock block).run
    (decide (block.kind = .variable), outcome.result.toBool, dataOf (afterTwo script).globals,
      dataOf outcome.state.1.globals)

/-- The last block fails, and the table is not what the first two blocks have left. -/
theorem globals_after_failed_redefinition :
    ∃ script block error, Script.ofSource redefinition = .ok script ∧
      script.blocks[2]? = some block ∧ block.kind = .variable ∧
      ((afterTwo script).runBlock block).run.result = .error error ∧
      ((afterTwo script).runBlock block).run.state.1.globals ≠ (afterTwo script).globals := by
  have hrun : (Script.ofSource redefinition).toOption.bind lastBlock =
      some (true, false, [['1'], ['\\', 'x']], [['\\', '\x7b'], ['\\', 'x']]) := by
    decide +kernel
  cases hscript : Script.ofSource redefinition with
  | error error =>
    rw [hscript] at hrun
    cases hrun
  | ok script =>
    rw [hscript] at hrun
    change lastBlock script = _ at hrun
    obtain ⟨block, hblock, hlast⟩ := Option.map_eq_some_iff.1 hrun
    obtain ⟨hkind, hlast⟩ := Prod.mk.inj hlast
    obtain ⟨hresult, hlast⟩ := Prod.mk.inj hlast
    obtain ⟨hbefore, hafter⟩ := Prod.mk.inj hlast
    cases herror : ((afterTwo script).runBlock block).run.result with
    | ok resolved =>
      rw [herror] at hresult
      cases hresult
    | error error =>
      refine ⟨script, block, error, rfl, hblock, of_decide_eq_true hkind, herror, fun h => ?_⟩
      rw [h, hbefore] at hafter
      exact absurd hafter (by decide)

end Session

end MapScript
