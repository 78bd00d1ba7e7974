/-
Lines of a source, and errors at places.

An error should name a line of the source by its number and by its text (`PointsAt`). Errors of
parsing do, because a directive keeps the line it is read from. An error of a resolution has the
place of the directive that was resolved, its number and its text (`AtPlace`), whatever place
that is. A container is read from no line and is at a place of its own; the table of global
variables keeps its containers at their places, so its errors are at these, also those that
come up on behalf of another line.
-/
import MapScript.Globals
import MapScript.Script
import MapScript.Proofs.ResolutionErrors

set_option autoImplicit false

namespace MapScript

open ScriptError (OfResolution)

/-! ## Lines of a source -/

/-- The line of a source that has a number; the first has number one. -/
def Text.HasLine (source : Text) (index : Nat) (line : Text) : Prop :=
  ∃ position, index = position + 1 ∧ source.lines[position]? = some line

/-- A number has one line. -/
theorem Text.HasLine.unique {source : Text} {index : Nat} {line line' : Text}
    (h : source.HasLine index line) (h' : source.HasLine index line') : line = line' := by
  obtain ⟨position, rfl, hline⟩ := h
  obtain ⟨position', heq, hline'⟩ := h'
  obtain rfl : position = position' := Nat.succ.inj heq
  exact Option.some.inj (hline.symm.trans hline')

/-- The lines that are numbered from a number on. -/
theorem Script.getElem?_of_mem_numberFrom {start index : Nat} {line : Text} {lines : List Text}
    (h : (index, line) ∈ numberFrom start lines) :
    ∃ position, index = start + position ∧ lines[position]? = some line := by
  induction lines generalizing start with
  | nil => cases h
  | cons first rest ih =>
    rw [numberFrom, List.mem_cons] at h
    rcases h with heq | hmem
    · obtain ⟨rfl, rfl⟩ := Prod.mk.inj heq
      exact ⟨0, rfl, rfl⟩
    · obtain ⟨position, rfl, hline⟩ := ih hmem
      exact ⟨position + 1, by omega, hline⟩

/-- The numbered lines of a source are its lines. -/
theorem Script.hasLine_of_mem_numberedLines {source : Text} {index : Nat} {line : Text}
    (h : (index, line) ∈ numberedLines source) : source.HasLine index line := by
  obtain ⟨position, rfl, hline⟩ := getElem?_of_mem_numberFrom (List.mem_filter.1 h).1
  exact ⟨position, Nat.add_comm 1 position, hline⟩

/-! ## Where an error points -/

namespace ScriptError

/-- **An error that points at a line of the source:** its number is that of a line, its text, if
it shows one, is the text of that line, and what it wraps is an error of a resolution and has
no line of its own. -/
inductive PointsAt (source : Text) (Own : ScriptError → Prop) : ScriptError → Prop where
  | emptyName {index : Nat} {line : Text} (h : source.HasLine index line) :
    PointsAt source Own (.emptyName index)
  | malformedLine {index : Nat} {line : Text} (h : source.HasLine index line) (message : Text) :
    PointsAt source Own (.malformedLine index line message)
  | unresolvedLine {index : Nat} {line : Text} (h : source.HasLine index line)
    {cause : ScriptError} (hcause : OfResolution Own cause) :
    PointsAt source Own (.unresolvedLine index line cause)

/-- What an unresolved line shows is the line, if the error points at it. -/
theorem PointsAt.hasLine {source : Text} {Own : ScriptError → Prop} {error : ScriptError}
    (h : error.PointsAt source Own) {index : Nat} {line : Text}
    (hshown : error.unresolvedAt? = some (index, line)) : source.HasLine index line := by
  cases h with
  | unresolvedLine hline _ =>
    obtain ⟨rfl, rfl⟩ := Prod.mk.inj (Option.some.inj hshown)
    exact hline
  | emptyName | malformedLine => cases hshown

/-- The error of a resolution, at one of the places. -/
def AtPlace (places : Nat → Text → Prop) (Own : ScriptError → Prop) (error : ScriptError) :
    Prop :=
  ∃ index line cause, places index line ∧ OfResolution Own cause ∧
    error = .unresolvedLine index line cause

/-- **An error that wraps no error of a line,** at whatever depth. -/
def WrapsNoLine (error : ScriptError) : Prop := ∀ cause ∈ error.causes, cause.unresolvedAt? = none

section WrapsNoLine

variable {Own : ScriptError → Prop} (hOwn : ∀ error, Own error → error.IsLineless)
  {error : ScriptError}

include hOwn

/-- What an error wraps that points at a line is an error of a resolution. -/
theorem PointsAt.wrapsNoLine {source : Text} (h : error.PointsAt source Own) :
    error.WrapsNoLine := by
  cases h with
  | unresolvedLine _ hcause => exact hcause.isLineless hOwn
  | emptyName | malformedLine => exact fun cause hcause => nomatch hcause

/-- So is what an error at one of the places wraps. -/
theorem AtPlace.wrapsNoLine {places : Nat → Text → Prop} (h : error.AtPlace places Own) :
    error.WrapsNoLine := by
  obtain ⟨index, line, cause, -, hcause, rfl⟩ := h
  exact hcause.isLineless hOwn

end WrapsNoLine

/-- The error of a resolution at a line of the source points at it. -/
theorem AtPlace.pointsAt {source : Text} {Own : ScriptError → Prop} {error : ScriptError}
    (h : error.AtPlace source.HasLine Own) : error.PointsAt source Own := by
  obtain ⟨index, line, cause, hline, hcause, rfl⟩ := h
  exact .unresolvedLine hline hcause

end ScriptError

open ScriptError (PointsAt AtPlace)

/-! ## Parsing -/

/-- The directives of a block are lines of the source. -/
structure Block.InSource (source : Text) (block : Block) : Prop where
  header : source.HasLine block.header.index block.header.line
  params : ∀ param ∈ block.params, source.HasLine param.index param.line

variable {source : Text} {Own : ScriptError → Prop}

/-- A directive keeps the line that it is read from. -/
theorem Directive.ofLine_eq_ok {line : Text} {index : Nat} {directive : Directive}
    (h : ofLine line index = .ok directive) : directive.index = index ∧ directive.line = line := by
  rw [ofLine] at h
  split at h
  · cases h
  · cases h
    exact ⟨rfl, rfl⟩

/-- The error of a line without a name has its number. -/
theorem Directive.ofLine_eq_error {line : Text} {index : Nat} {error : ScriptError}
    (h : ofLine line index = .error error) : error = .emptyName index := by
  rw [ofLine] at h
  split at h
  · exact (Except.error.inj h).symm
  · cases h

/-- What is read from lines of the source points at them or is at them. -/
theorem Script.blocksFrom_inSource {lines : List (Nat × Text)}
    (hlines : ∀ entry ∈ lines, source.HasLine entry.1 entry.2) {unfinished : Option Block}
    (hunfinished : ∀ block ∈ unfinished, block.InSource source) :
    OnError (PointsAt source Own) (blocksFrom unfinished lines) ∧
      ∀ blocks, blocksFrom unfinished lines = .ok blocks →
        ∀ block ∈ blocks, block.InSource source := by
  induction lines generalizing unfinished with
  | nil =>
    refine ⟨.ok _, fun blocks heq block hblock => ?_⟩
    cases heq
    exact hunfinished block (Option.mem_toList.1 hblock)
  | cons entry rest ih =>
    obtain ⟨index, line⟩ := entry
    obtain ⟨hline, hrest⟩ := List.forall_mem_cons.1 hlines
    rw [blocksFrom]
    cases hdirective : Directive.ofLine line index with
    | error error =>
      rw [Directive.ofLine_eq_error hdirective]
      refine ⟨.error (.emptyName hline), fun blocks heq => ?_⟩
      cases heq
    | ok directive =>
      obtain ⟨rfl, rfl⟩ := Directive.ofLine_eq_ok hdirective
      dsimp only
      split
      · -- a header completes the block before it and begins a new one
        have hnew : ∀ block ∈ some (⟨directive, []⟩ : Block), block.InSource source := by
          rintro block ⟨⟩
          exact ⟨hline, fun param hparam => nomatch hparam⟩
        obtain ⟨herror, hok⟩ := ih hrest hnew
        refine ⟨herror.map _, fun blocks heq block hblock => ?_⟩
        obtain ⟨later, hlater, rfl⟩ := exists_of_map_eq_ok heq
        rcases List.mem_append.1 hblock with hfirst | hsecond
        · exact hunfinished block (Option.mem_toList.1 hfirst)
        · exact hok later hlater block hsecond
      · cases unfinished with
        | none =>
          refine ⟨.error (.malformedLine hline _), fun blocks heq => ?_⟩
          cases heq
        | some block =>
          refine ih hrest ?_
          rintro pushed ⟨⟩
          obtain ⟨hheader, hparams⟩ := hunfinished block rfl
          refine ⟨hheader, fun param hparam => ?_⟩
          rcases List.mem_append.1 hparam with hold | hnew
          · exact hparams param hold
          · obtain rfl := List.mem_singleton.1 hnew
            exact hline

/-- **Parsing points at lines of the source,** and a script that is parsed consists of them. -/
theorem Script.ofSource_inSource (source : Text) :
    OnError (PointsAt source Own) (ofSource source) ∧
      ∀ script, ofSource source = .ok script → ∀ block ∈ script.blocks, block.InSource source := by
  have hnone : ∀ block ∈ (none : Option Block), block.InSource source :=
    fun block hblock => nomatch hblock
  obtain ⟨herror, hok⟩ := blocksFrom_inSource
    (fun entry hentry => hasLine_of_mem_numberedLines hentry) hnone
  refine ⟨herror.map _, fun script heq => ?_⟩
  obtain ⟨blocks, hblocks, rfl⟩ := exists_of_map_eq_ok heq
  exact hok blocks hblocks

/-! ## Directives -/

variable {m : Type → Type} [Monad m] [LawfulMonad m] {places : Nat → Text → Prop}

namespace Directive

variable {resolver : Resolver m} {directive : Directive}

/-- Resolution reports the place of the directive. -/
theorem resolveData_onError (hresolver : resolver.registry.ErrorsIn Own)
    (hplace : places directive.index directive.line) (visible : List Variable) :
    SatisfiesM (OnError (AtPlace places Own)) (directive.resolveData resolver visible) := by
  rw [resolveData]
  cases directive.internal.data with
  | none => exact .pure (.ok none)
  | some data =>
    refine (Resolver.resolve_onError hresolver _ data).bind fun result hresult => ?_
    cases result with
    | ok text => exact .pure (.ok (some text))
    | error cause =>
      exact .pure (.error ⟨directive.index, directive.line, cause, hplace, hresult cause rfl, rfl⟩)

/-- So does reading the value. -/
theorem current_onError (hresolver : resolver.registry.ErrorsIn Own)
    (hplace : places directive.index directive.line) (visible : List Variable) :
    SatisfiesM (OnError (AtPlace places Own)) (directive.current resolver visible) := by
  rw [current.eq_def]
  split
  · exact .pure (.ok _)
  · exact .pure (.ok _)
  · exact resolveData_onError hresolver hplace visible

/-- A directive that is read stays where it is. -/
theorem value_onError (hresolver : resolver.registry.ErrorsIn Own)
    (hplace : places directive.index directive.line) (visible : List Variable) :
    SatisfiesM
      (fun outcome : Outcome Directive (Option Text) =>
        places outcome.state.index outcome.state.line ∧
          OnError (AtPlace places Own) outcome.result)
      (directive.value resolver visible) := by
  unfold value
  exact (current_onError hresolver hplace visible).bind fun result hresult =>
    .pure ⟨hplace, hresult⟩

/-- Computing the value keeps the place and the name of the directive. -/
theorem materialize_onError (hresolver : resolver.registry.ErrorsIn Own)
    (hplace : places directive.index directive.line) (visible : List Variable) :
    SatisfiesM
      (fun outcome : Outcome Directive Unit =>
        (∃ kept, outcome.state = { directive with kept := kept }) ∧
          OnError (AtPlace places Own) outcome.result)
      (directive.materialize resolver visible) := by
  rw [materialize]
  refine (resolveData_onError hresolver hplace visible).bind fun result hresult => ?_
  cases result with
  | ok data => exact .pure ⟨⟨_, rfl⟩, .ok ()⟩
  | error error => exact .pure ⟨⟨directive.kept, rfl⟩, .error (hresult error rfl)⟩

/-- Refreshing keeps the place of the directive. -/
theorem refresh_onError (hresolver : resolver.registry.ErrorsIn Own)
    (hplace : places directive.index directive.line) (visible : List Variable) :
    SatisfiesM
      (fun outcome : Outcome Directive Bool =>
        places outcome.state.index outcome.state.line ∧
          OnError (AtPlace places Own) outcome.result)
      (directive.refresh resolver visible) := by
  rw [refresh]
  split
  · refine (materialize_onError hresolver hplace visible).bind fun outcome houtcome => .pure ?_
    obtain ⟨⟨kept, hstate⟩, herror⟩ := houtcome
    refine ⟨?_, herror.map _⟩
    change places outcome.state.index outcome.state.line
    rw [hstate]
    exact hplace
  · exact .pure ⟨hplace, .ok false⟩

/-- A container is at the place of its variable and has its name. -/
theorem container_onError (hresolver : resolver.registry.ErrorsIn Own) {name data : Text}
    {index : Nat} (hplace : places index (name ++ ':' :: data)) (visible : List Variable)
    (policy : ResolvePolicy) :
    SatisfiesM
      (fun result : Except ScriptError Directive =>
        OnError (AtPlace places Own) result ∧
          ∀ held, result = .ok held → places held.index held.line ∧ held.name = name)
      (container resolver visible name data policy index) := by
  have hempty : places (emptyContainer name data policy index).index
      (emptyContainer name data policy index).line := hplace
  rw [container]
  refine (materialize_onError hresolver hempty visible).bind fun outcome houtcome => .pure ?_
  obtain ⟨⟨kept, hstate⟩, herror⟩ := houtcome
  refine ⟨herror.map _, fun held heq => ?_⟩
  obtain ⟨-, -, rfl⟩ := exists_of_map_eq_ok heq
  rw [hstate]
  exact ⟨hplace, rfl⟩

end Directive

/-! ## Global variables -/

/-- A name of a variable that can be seen is found. -/
theorem Scope.exists_require_eq_ok {visible : List Variable} {name : Text}
    (h : name ∈ visible.map (·.name)) : ∃ found, Scope.require ⟨[], visible⟩ name = .ok found := by
  obtain ⟨var, hvar, rfl⟩ := List.mem_map.1 h
  have hfound : ((Scope.mk [] visible).find? var.name).isSome :=
    List.find?_isSome.2 ⟨var, hvar, decide_eq_true rfl⟩
  obtain ⟨found, hfind⟩ := Option.isSome_iff_exists.1 hfound
  refine ⟨found, ?_⟩
  unfold Scope.require
  rw [hfind]

namespace Globals

variable {resolver : Resolver m}

/-- Containers are at certain places. -/
def AllAt (places : Nat → Text → Prop) (entries : List Directive) : Prop :=
  ∀ entry ∈ entries, places entry.index entry.line

/-- A snapshot has the names of the containers, and its errors are at their places. -/
theorem snapshotFrom_onError (hresolver : resolver.registry.ErrorsIn Own)
    {entries : List Directive} (hentries : AllAt places entries) (visible : List Variable) :
    SatisfiesM
      (fun result : Except ScriptError (List Variable) =>
        OnError (AtPlace places Own) result ∧
          ∀ vars, result = .ok vars →
            vars.map (·.name) = visible.map (·.name) ++ entries.map (·.name))
      (snapshotFrom resolver visible entries) := by
  induction entries generalizing visible with
  | nil =>
    refine .pure ⟨.ok visible, fun vars heq => ?_⟩
    cases heq
    exact (List.append_nil _).symm
  | cons entry rest ih =>
    obtain ⟨hentry, hrest⟩ := List.forall_mem_cons.1 hentries
    rw [snapshotFrom]
    refine (Directive.current_onError hresolver hentry visible).bind fun result hresult => ?_
    cases result with
    | error error =>
      refine .pure ⟨.error (hresult error rfl), fun vars heq => ?_⟩
      cases heq
    | ok data =>
      refine (ih hrest _).imp fun hlater => ⟨hlater.1, fun vars heq => ?_⟩
      rw [hlater.2 vars heq, List.map_append, List.append_assoc]
      rfl

/-- A snapshot of the table. -/
theorem snapshot_onError (hresolver : resolver.registry.ErrorsIn Own) {globals : Globals}
    (hglobals : AllAt places globals.entries) :
    SatisfiesM (OnError (AtPlace places Own)) (globals.snapshot resolver) :=
  (snapshotFrom_onError hresolver hglobals []).imp fun h => h.1

/-- The value of a variable that is defined: its name is found. -/
theorem valueOf_onError (hresolver : resolver.registry.ErrorsIn Own) {globals : Globals}
    (hglobals : AllAt places globals.entries) {name : Text}
    (hname : ∃ entry ∈ globals.entries, entry.name = name) :
    SatisfiesM (OnError (AtPlace places Own)) (globals.valueOf resolver name) := by
  rw [valueOf]
  refine (snapshotFrom_onError hresolver hglobals []).bind fun result hresult => ?_
  cases result with
  | error error => exact .pure (.error (hresult.1 error rfl))
  | ok visible =>
    -- the snapshot has the names of the table, so that the lookup cannot fail
    have hmem : name ∈ visible.map (·.name) := by
      obtain ⟨entry, hentry, rfl⟩ := hname
      rw [hresult.2 visible rfl]
      exact List.mem_append_right _ (List.mem_map_of_mem hentry)
    obtain ⟨found, hrequire⟩ := Scope.exists_require_eq_ok hmem
    dsimp only
    rw [hrequire]
    exact .pure (.ok _)

/-- A container that is put in its place is in the table with those from before. -/
theorem mem_place {globals : Globals} {position : Option Nat} {container : Directive}
    {entry : Directive} (h : entry ∈ (globals.place position container).entries) :
    entry = container ∨ entry ∈ globals.entries := by
  cases position with
  | some position => exact (List.mem_or_eq_of_mem_set h).symm
  | none =>
    rcases List.mem_append.1 h with hold | hnew
    · exact .inr hold
    · exact .inl (List.mem_singleton.1 hnew)

/-- A container that is put in the place of its name is in the table. -/
theorem container_mem_place (globals : Globals) (name : Text) (container : Directive) :
    container ∈ (globals.place (globals.position? name) container).entries := by
  cases hposition : globals.position? name with
  | some position =>
    obtain ⟨hlt, -⟩ := List.findIdx?_eq_some_iff_getElem.1 hposition
    exact List.mem_set hlt container
  | none => exact List.mem_append_right _ (List.mem_singleton_self container)

/-- What a step on the table leaves: containers at the places, and an error at one of them. -/
def StepAt {α : Type} (places : Nat → Text → Prop) (Own : ScriptError → Prop)
    (outcome : Outcome Globals α) : Prop :=
  AllAt places outcome.state.entries ∧ OnError (AtPlace places Own) outcome.result

/-- Defining a variable puts a container at its place. -/
theorem define_onError (hresolver : resolver.registry.ErrorsIn Own) {globals : Globals}
    (hglobals : AllAt places globals.entries) {name data : Text} {index : Nat}
    (hplace : places index (name ++ ':' :: data)) (policy : ResolvePolicy) :
    SatisfiesM
      (fun outcome : Outcome Globals Unit => StepAt places Own outcome ∧
        (outcome.result = .ok () → ∃ entry ∈ outcome.state.entries, entry.name = name))
      (globals.define resolver name data policy index) := by
  have hprefix : AllAt places
      (globals.entries.take ((globals.position? name).getD globals.size)) :=
    fun entry hentry => hglobals entry (List.mem_of_mem_take hentry)
  rw [define]
  refine (snapshotFrom_onError hresolver hprefix []).bind fun result hresult => ?_
  cases result with
  | error error =>
    exact .pure ⟨⟨hglobals, .error (hresult.1 error rfl)⟩, fun heq => nomatch heq⟩
  | ok visible =>
    refine (Directive.container_onError hresolver hplace visible policy).bind
      fun result hresult => ?_
    cases result with
    | error error =>
      exact .pure ⟨⟨hglobals, .error (hresult.1 error rfl)⟩, fun heq => nomatch heq⟩
    | ok container =>
      obtain ⟨hcontainer, hname⟩ := hresult.2 container rfl
      refine .pure ⟨⟨fun entry hentry => ?_, .ok ()⟩, fun _ => ?_⟩
      · rcases mem_place hentry with rfl | hold
        · exact hcontainer
        · exact hglobals entry hold
      · exact ⟨container, container_mem_place globals name container, hname⟩

/-- Refreshing keeps every container at its place. -/
theorem refreshFrom_onError (hresolver : resolver.registry.ErrorsIn Own)
    {done entries : List Directive} (hdone : AllAt places done) (hentries : AllAt places entries) :
    SatisfiesM (StepAt places Own) (refreshFrom resolver done entries) := by
  induction entries generalizing done with
  | nil => exact .pure ⟨hdone, .ok ()⟩
  | cons entry rest ih =>
    obtain ⟨hentry, hrest⟩ := List.forall_mem_cons.1 hentries
    rw [refreshFrom]
    split
    · refine ih ?_ hrest
      exact List.forall_mem_append.2 ⟨hdone, List.forall_mem_singleton.2 hentry⟩
    · refine (snapshotFrom_onError hresolver hdone []).bind fun result hresult => ?_
      cases result with
      | error error =>
        refine .pure ⟨?_, .error (hresult.1 error rfl)⟩
        exact List.forall_mem_append.2 ⟨hdone, hentries⟩
      | ok visible =>
        refine (Directive.refresh_onError hresolver hentry visible).bind
          fun outcome houtcome => ?_
        obtain ⟨hstate, herror⟩ := houtcome
        cases hresult : outcome.result with
        | ok value =>
          refine ih ?_ hrest
          exact List.forall_mem_append.2 ⟨hdone, List.forall_mem_singleton.2 hstate⟩
        | error error =>
          refine .pure ⟨?_, .error (herror error hresult)⟩
          exact List.forall_mem_append.2 ⟨hdone, List.forall_mem_cons.2 ⟨hstate, hrest⟩⟩

/-- Refreshing the table keeps every container at its place. -/
theorem refreshAll_onError (hresolver : resolver.registry.ErrorsIn Own) {globals : Globals}
    (hglobals : AllAt places globals.entries) :
    SatisfiesM (StepAt places Own) (globals.refreshAll resolver) :=
  refreshFrom_onError hresolver (fun _ hentry => nomatch hentry) hglobals

end Globals

end MapScript
