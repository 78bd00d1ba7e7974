/-
The life of a directive.

A directive is created, and then called upon any number of times: its policy and its data are set,
it is refreshed, it is given local variables and it is read. What its value is at the end should
follow from this history alone. The history is told by a `Lifecycle`, which computes nothing. It
knows the policy, the data and the local variables by now, and of the last event that asked for a
value it knows the moment (`Moment`): the data, the local and the global variables of that event.

A directive works the other way round. It computes a value at such an event and forgets what the
value was computed from. The two agree after any calls (`current_after_calls`), and what carries
this is that a directive whose policy keeps values holds the value of the latest moment
(`Lives.kept_value`). A container holds a value also when it is resolved on every read. That one
may be stale, and nothing is said of it but its name: no read looks at it, and every way out of
that policy computes a new one.
-/
import MapScript.Proofs.Updates

set_option autoImplicit false

namespace MapScript.Directive

/-! ## Moments -/

/-- **What a value is computed from:** a resolver, the data, and the variables to be seen. -/
structure Moment where
  resolver : Resolver Id
  data : Option Text
  scope : Scope

/-- The value at a moment, for a directive on a line. Without data there is none. -/
def Moment.value (index : Nat) (line : Text) (moment : Moment) :
    Except ScriptError (Option Text) :=
  match moment.data with
  | none => .ok none
  | some data =>
    ((moment.resolver.resolve moment.scope data).run.map some).mapError (·.atLine index line)

/-- A directive is resolved at the moment of its data and its local variables. -/
theorem resolveData_eq_value (resolver : Resolver Id) (visible : List Variable)
    (directive : Directive) :
    (directive.resolveData resolver visible).run =
      Moment.value directive.index directive.line
        ⟨resolver, directive.internal.data, ⟨directive.locals, visible⟩⟩ := by
  rw [resolveData, Moment.value]
  cases directive.internal.data with
  | none => rfl
  | some data =>
    dsimp only
    rw [Id.run_bind]
    cases (resolver.resolve ⟨directive.locals, visible⟩ data).run <;> rfl

/-! ## Calls -/

/-- **A call on a directive,** with the resolver and the global variables that it is given. -/
inductive Call where
  | update (resolver : Resolver Id) (visible : List Variable) (change : Update)
  | setLocal (var : Variable)
  | value (resolver : Resolver Id) (visible : List Variable)
  | current (resolver : Resolver Id) (visible : List Variable)
  | readUnresolved
  | markUnused

/-- The directive after a call. An update has to succeed; of a read it does not matter, since it
leaves the same directive if it fails. -/
def Call.apply (directive : Directive) : Call → Except ScriptError Directive
  | .update resolver visible change =>
    let outcome := (change.apply resolver visible directive).run
    outcome.result.map fun _ => outcome.state
  | .setLocal var => .ok (directive.setLocal var)
  | .value resolver visible => .ok (directive.value resolver visible).run.state
  | .current _ _ => .ok directive
  | .readUnresolved => .ok directive.readUnresolved.2
  | .markUnused => .ok directive.markUnused

/-- A call that leaves a kept value alone: a read, a local variable, or a refresh that the policy
does not ask for. -/
def Call.IsQuiet (policy : ResolvePolicy) : Call → Prop
  | .update _ _ .refresh => policy ≠ .onEveryRefresh
  | .update _ _ _ => False
  | .setLocal _ | .value _ _ | .current _ _ | .readUnresolved | .markUnused => True

/-! ## Histories -/

/-- **What the history of a directive comes to.** -/
structure Lifecycle where
  policy : ResolvePolicy
  data : Option Text
  locals : List Variable
  /-- The moment of the latest event that asked for a value. -/
  latest : Option Moment

namespace Lifecycle

/-- The history up to an event that asks for a value. -/
def computed (resolver : Resolver Id) (visible : List Variable) (life : Lifecycle) : Lifecycle :=
  { life with latest := some ⟨resolver, life.data, ⟨life.locals, visible⟩⟩ }

/-- **The history up to a call.** A policy that keeps values asks for one when it is set and when
the data are set under it; a refresh asks for one under the policy for it. -/
def after (life : Lifecycle) : Call → Lifecycle
  | .update resolver visible (.setPolicy policy) =>
    let changed := { life with policy := policy }
    if policy = .onEveryRead then changed else changed.computed resolver visible
  | .update resolver visible (.setData data) =>
    let changed := { life with data := some data }
    if life.policy = .onEveryRead then changed else changed.computed resolver visible
  | .update resolver visible .refresh =>
    if life.policy = .onEveryRefresh then life.computed resolver visible else life
  | .setLocal var => { life with locals := insertLocal var life.locals }
  | .value _ _ | .current _ _ | .readUnresolved | .markUnused => life

end Lifecycle

/-- **How a directive comes to be:** from a line, or to hold a variable. -/
inductive Origin where
  | line (text : Text) (index : Nat)
  | container (resolver : Resolver Id) (visible : List Variable) (name data : Text)
    (policy : ResolvePolicy) (index : Nat)

namespace Origin

/-- Creates the directive. -/
def create : Origin → Except ScriptError Directive
  | .line text index => ofLine text index
  | .container resolver visible name data policy index =>
    (Directive.container resolver visible name data policy index).run

/-- The history of a directive that has just been created. Nothing has been computed for a line. -/
def lifecycle : Origin → Lifecycle
  | .line text _ =>
    let raw := Variable.ofLine text
    ⟨.onEveryRead, raw.data.map (DirectiveKind.ofName (normalizeName raw.name)).normalizeData,
      [], none⟩
  | .container resolver visible _ data policy _ =>
    Lifecycle.computed resolver visible ⟨policy, some data, [], none⟩

end Origin

/-! ## Directives and their histories -/

/-- A directive that is still on its line, with the name it was given there. -/
structure SameLine (created directive : Directive) : Prop where
  line : directive.line = created.line
  index : directive.index = created.index
  kind : directive.kind = created.kind
  raw : directive.raw = created.raw
  name : directive.internal.name = created.internal.name

/-- A directive of which policy, data and local variables are those of its history. -/
structure Lifecycle.Describes (life : Lifecycle) (directive : Directive) : Prop where
  policy : directive.policy = life.policy
  data : directive.internal.data = life.data
  locals : directive.locals = life.locals

/-- **A directive that has lived through a history.** -/
structure Lives (created : Directive) (life : Lifecycle) (directive : Directive) : Prop where
  sameLine : created.SameLine directive
  describes : life.Describes directive
  /-- A value that is kept has the name of the directive. -/
  kept_name : ∀ kept ∈ directive.kept, kept.name = directive.internal.name
  /-- Under a policy that keeps values it is the value of the latest moment. -/
  kept_value : directive.policy ≠ .onEveryRead → ∃ moment data, life.latest = some moment ∧
    moment.value directive.index directive.line = .ok data ∧
    directive.kept = some ⟨directive.internal.name, data⟩

variable {created directive directive' : Directive} {life : Lifecycle}

/-- Computing a value that succeeds keeps the value of the moment, and changes nothing else. -/
theorem of_materialize_eq_ok {resolver : Resolver Id} {visible : List Variable}
    (h : ((directive.materialize resolver visible).run.result.map fun _ =>
      (directive.materialize resolver visible).run.state) = .ok directive') :
    ∃ data, Moment.value directive.index directive.line
        ⟨resolver, directive.internal.data, ⟨directive.locals, visible⟩⟩ = .ok data ∧
      directive' = { directive with kept := some ⟨directive.internal.name, data⟩ } := by
  rw [materialize, Id.run_bind, resolveData_eq_value] at h
  cases hvalue : Moment.value directive.index directive.line
      ⟨resolver, directive.internal.data, ⟨directive.locals, visible⟩⟩ with
  | error error =>
    rw [hvalue] at h
    cases h
  | ok data =>
    rw [hvalue] at h
    cases h
    exact ⟨data, rfl, rfl⟩

/-- **A directive that has computed its value** has lived through an event that asks for one. What
it kept before does not matter. -/
theorem Lives.of_materialize {resolver : Resolver Id} {visible : List Variable}
    (hline : created.SameLine directive) (hlife : life.Describes directive)
    (h : ((directive.materialize resolver visible).run.result.map fun _ =>
      (directive.materialize resolver visible).run.state) = .ok directive') :
    Lives created (life.computed resolver visible) directive' := by
  obtain ⟨data, hvalue, rfl⟩ := of_materialize_eq_ok h
  rw [hlife.data, hlife.locals] at hvalue
  refine ⟨⟨hline.1, hline.2, hline.3, hline.4, hline.5⟩, ⟨hlife.1, hlife.2, hlife.3⟩, ?_, ?_⟩
  · rintro kept ⟨⟩
    rfl
  · exact fun _ => ⟨_, data, rfl, hvalue, rfl⟩

/-- Whether the directive is marked as read makes no difference. -/
theorem Lives.withUsed (h : Lives created life directive) (used : Bool) :
    Lives created life { directive with used := used } :=
  ⟨⟨h.1.1, h.1.2, h.1.3, h.1.4, h.1.5⟩, ⟨h.2.1, h.2.2, h.2.3⟩, h.3, h.4⟩

/-! ## One call -/

/-- A policy that is set computes a value, or makes the directive forget the one it has. -/
theorem Lives.setPolicy {resolver : Resolver Id} {visible : List Variable}
    {policy : ResolvePolicy} (h : Lives created life directive)
    (hcall : (Call.update resolver visible (.setPolicy policy)).apply directive =
      .ok directive') :
    Lives created (life.after (.update resolver visible (.setPolicy policy))) directive' := by
  have hline : created.SameLine { directive with policy := policy } :=
    ⟨h.1.1, h.1.2, h.1.3, h.1.4, h.1.5⟩
  have hlife : Lifecycle.Describes { life with policy := policy }
      { directive with policy := policy } := ⟨rfl, h.2.2, h.2.3⟩
  cases policy with
  | onEveryRead =>
    cases hcall
    refine ⟨⟨hline.1, hline.2, hline.3, hline.4, hline.5⟩, ⟨rfl, hlife.2, hlife.3⟩, ?_, ?_⟩
    · exact fun kept hkept => nomatch hkept
    · exact fun hpolicy => absurd rfl hpolicy
  | onEveryRefresh => exact Lives.of_materialize hline hlife hcall
  | onceAtCreation => exact Lives.of_materialize hline hlife hcall

/-- Data that are set under a policy that keeps values are computed. Under the other one a
container computes them too, and the value is not the latest of its history. -/
theorem Lives.setData {resolver : Resolver Id} {visible : List Variable} {data : Text}
    (h : Lives created life directive)
    (hcall : (Call.update resolver visible (.setData data)).apply directive = .ok directive') :
    Lives created (life.after (.update resolver visible (.setData data))) directive' := by
  have hline : created.SameLine
      { directive with internal := { directive.internal with data := some data } } :=
    ⟨h.1.1, h.1.2, h.1.3, h.1.4, h.1.5⟩
  have hlife : Lifecycle.Describes { life with data := some data }
      { directive with internal := { directive.internal with data := some data } } :=
    ⟨h.2.1, rfl, h.2.3⟩
  rw [Call.apply, Update.apply, Directive.setData] at hcall
  rw [Lifecycle.after]
  dsimp only at hcall ⊢
  by_cases hpolicy : life.policy = .onEveryRead
  · rw [if_pos hpolicy]
    split at hcall
    · obtain ⟨hline', hlife', hname, -⟩ := Lives.of_materialize hline hlife hcall
      exact ⟨hline', ⟨hlife'.1, hlife'.2, hlife'.3⟩, hname,
        fun hne => absurd (hlife'.policy.trans hpolicy) hne⟩
    · cases hcall
      exact ⟨hline, hlife, h.kept_name, fun hne => absurd (hlife.policy.trans hpolicy) hne⟩
  · have hkeeps : directive.policy ≠ .onEveryRead := fun hread =>
      hpolicy (h.describes.policy.symm.trans hread)
    rw [if_neg hpolicy]
    rw [if_pos (.inl hkeeps)] at hcall
    exact Lives.of_materialize hline hlife hcall

/-- A refresh computes a value under the policy for it, and does nothing under the others. -/
theorem Lives.refresh {resolver : Resolver Id} {visible : List Variable}
    (h : Lives created life directive)
    (hcall : (Call.update resolver visible .refresh).apply directive = .ok directive') :
    Lives created (life.after (.update resolver visible .refresh)) directive' := by
  rw [Call.apply, Update.apply, Directive.refresh] at hcall
  rw [Lifecycle.after, ← h.describes.policy]
  by_cases hpolicy : directive.policy = .onEveryRefresh
  · rw [if_pos hpolicy] at hcall ⊢
    refine Lives.of_materialize h.sameLine h.describes (Eq.trans ?_ hcall)
    -- a refresh says that it has computed a value, and an update says nothing
    rw [Id.run_bind, Id.run_bind]
    obtain ⟨result, state⟩ := (directive.materialize resolver visible).run
    cases result <;> rfl
  · rw [if_neg hpolicy] at hcall ⊢
    cases hcall
    exact h

/-- **A call that succeeds is an event of the history.** -/
theorem Lives.after {call : Call} (h : Lives created life directive)
    (hcall : call.apply directive = .ok directive') :
    Lives created (life.after call) directive' := by
  cases call with
  | update resolver visible change =>
    cases change with
    | setPolicy policy => exact h.setPolicy hcall
    | setData data => exact h.setData hcall
    | refresh => exact h.refresh hcall
  | setLocal var =>
    cases hcall
    exact ⟨⟨h.1.1, h.1.2, h.1.3, h.1.4, h.1.5⟩,
      ⟨h.2.1, h.2.2, congrArg (insertLocal var) h.2.3⟩, h.3, h.4⟩
  | value resolver visible =>
    cases hcall
    exact h.withUsed true
  | current resolver visible =>
    cases hcall
    exact h
  | readUnresolved =>
    cases hcall
    exact h.withUsed true
  | markUnused =>
    cases hcall
    exact h.withUsed false

/-- A quiet call leaves the kept value and the policy. -/
theorem Call.apply_of_isQuiet {call : Call} (hquiet : call.IsQuiet directive.policy)
    (hcall : call.apply directive = .ok directive') :
    directive'.kept = directive.kept ∧ directive'.policy = directive.policy := by
  cases call with
  | update resolver visible change =>
    cases change with
    | setPolicy policy => exact hquiet.elim
    | setData data => exact hquiet.elim
    | refresh =>
      rw [Call.apply, Update.apply, Directive.refresh, if_neg hquiet] at hcall
      cases hcall
      exact ⟨rfl, rfl⟩
  | setLocal | value | current | readUnresolved | markUnused =>
    cases hcall
    exact ⟨rfl, rfl⟩

/-! ## Any calls -/

/-- A directive that has been created has lived through its creation. -/
theorem Lives.of_create {origin : Origin} (h : origin.create = .ok created) :
    Lives created origin.lifecycle created := by
  cases origin with
  | line text index =>
    rw [Origin.create, ofLine] at h
    dsimp only at h
    split at h
    · cases h
    · cases h
      exact ⟨⟨rfl, rfl, rfl, rfl, rfl⟩, ⟨rfl, rfl, rfl⟩, fun kept hkept => (nomatch hkept),
        fun hpolicy => absurd rfl hpolicy⟩
  | container resolver visible name data policy index =>
    have hempty : Lifecycle.Describes ⟨policy, some data, [], none⟩
        (emptyContainer name data policy index) := ⟨rfl, rfl, rfl⟩
    have hsame : (emptyContainer name data policy index).SameLine
        (emptyContainer name data policy index) := ⟨rfl, rfl, rfl, rfl, rfl⟩
    have hlives := Lives.of_materialize hsame hempty h
    exact ⟨⟨rfl, rfl, rfl, rfl, rfl⟩, hlives.2, hlives.3, hlives.4⟩

/-- Calls that succeed are the events of the history, one after the other. -/
theorem Lives.afterCalls {calls : List Call} (h : Lives created life directive)
    (hcalls : calls.foldlM Call.apply directive = .ok directive') :
    Lives created (calls.foldl Lifecycle.after life) directive' := by
  induction calls generalizing life directive with
  | nil =>
    cases hcalls
    exact h
  | cons call rest ih =>
    rw [List.foldlM_cons] at hcalls
    cases hcall : call.apply directive with
    | error error =>
      rw [hcall] at hcalls
      cases hcalls
    | ok next =>
      rw [hcall] at hcalls
      exact ih (h.after hcall) hcalls

/-- What is read under a policy that keeps values is the value of the latest moment. -/
theorem Lives.current_eq (h : Lives created life directive)
    (hpolicy : directive.policy ≠ .onEveryRead) :
    ∃ moment data, life.latest = some moment ∧
      moment.value directive.index directive.line = .ok data ∧
      ∀ (resolver : Resolver Id) (visible : List Variable),
        (directive.current resolver visible).run = .ok data := by
  obtain ⟨moment, data, hlatest, hvalue, hkept⟩ := h.kept_value hpolicy
  refine ⟨moment, data, hlatest, hvalue, fun resolver visible => ?_⟩
  rw [current_of_kept hkept hpolicy]
  rfl

/-- **The value of a directive follows from its history.** It is created in any way, and called
upon any number of times with any resolvers and global variables, and the calls succeed. Then

* its line, its number, its kind and its names are those it was created with, and its policy, its
  data and its local variables are those that were set last;
* if it is resolved on every read, what is read is computed from the data and the local variables
  by now, and from the global variables that can be seen now;
* otherwise it is the value of the latest moment, whatever global variables can be seen now;
* no read, no local variable and no refresh that the policy does not ask for touches what is
  kept. -/
theorem current_after_calls {origin : Origin} {calls : List Call}
    (hcreated : origin.create = .ok created)
    (hcalls : calls.foldlM Call.apply created = .ok directive) :
    created.SameLine directive ∧
    (∀ kept ∈ directive.kept, kept.name = directive.internal.name) ∧
    (calls.foldl Lifecycle.after origin.lifecycle).Describes directive ∧
    (directive.policy = .onEveryRead →
      ∀ (resolver : Resolver Id) (visible : List Variable),
        (directive.current resolver visible).run =
          Moment.value directive.index directive.line
            ⟨resolver, directive.internal.data, ⟨directive.locals, visible⟩⟩) ∧
    (directive.policy ≠ .onEveryRead →
      ∃ moment data, (calls.foldl Lifecycle.after origin.lifecycle).latest = some moment ∧
        moment.value directive.index directive.line = .ok data ∧
        ∀ (resolver : Resolver Id) (visible : List Variable),
          (directive.current resolver visible).run = .ok data) ∧
    ∀ (call : Call) (next : Directive), call.IsQuiet directive.policy →
      call.apply directive = .ok next →
      next.kept = directive.kept ∧ next.policy = directive.policy := by
  have hlives := (Lives.of_create hcreated).afterCalls hcalls
  refine ⟨hlives.sameLine, hlives.kept_name, hlives.describes, fun hpolicy resolver visible => ?_,
    hlives.current_eq, fun call next hquiet hcall => Call.apply_of_isQuiet hquiet hcall⟩
  rw [current_of_onEveryRead hpolicy, resolveData_eq_value]

/-- Calls of a line that is computed on refreshes only. It is given a local variable after its
policy has been set, and is refreshed when the global variable is another one. -/
def refreshedLate : List Call :=
  [.update (Resolver.of .empty .standard) [⟨['g'], some ['2']⟩] (.setPolicy .onEveryRefresh),
    .setLocal ⟨['l'], some ['0']⟩,
    .value (Resolver.of .empty .standard) [⟨['g'], some ['3']⟩],
    .update (Resolver.of .empty .standard) [⟨['g'], some ['4']⟩] .refresh,
    .current (Resolver.of .empty .standard) [⟨['g'], some ['5']⟩]]

/-- The refresh is the latest moment, and its value is read whatever can be seen later. -/
theorem current_after_refresh :
    ∃ created directive, (Origin.line ['n', ':', 'g', 'l'] 1).create = .ok created ∧
      refreshedLate.foldlM Call.apply created = .ok directive ∧
      ∀ (resolver : Resolver Id) (visible : List Variable),
        (directive.current resolver visible).run = .ok (some ['4', '0']) := by
  refine ⟨_, _, rfl, rfl, ?_⟩
  obtain ⟨-, -, -, -, hkept, -⟩ :=
    @current_after_calls _ _ (.line ['n', ':', 'g', 'l'] 1) refreshedLate rfl rfl
  obtain ⟨moment, data, hlatest, hvalue, hcurrent⟩ := hkept (by decide)
  cases hlatest
  cases hvalue
  exact hcurrent

end MapScript.Directive
