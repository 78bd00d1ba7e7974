/-
What an update that fails leaves behind.

An update of a directive writes the new policy or the new data first and computes the value
after that. Computing may fail, and then it keeps nothing and takes nothing back. So a failed
update leaves what it has begun with (`Update.begun`), and that is the directive from before
only if the update has written what was there.

Whether the next reads see the difference is another question. New data are seen by every read.
A new policy is seen only where it uncovers a kept value that the old policy passed over, and
that is the case of a container that is resolved on every read: it keeps the value it was built
with, and nobody reads it until the policy changes. `apply_onFailure` says both exactly.
-/
import MapScript.Directive
import Mathlib

set_option autoImplicit false

namespace MapScript.Directive

/-! ## Reads -/

section Reads

variable {m : Type → Type} [Monad m] {directive : Directive}

/-- A value that is kept is read under every policy that keeps values. -/
theorem current_of_kept {kept : Variable} (hkept : directive.kept = some kept)
    (hpolicy : directive.policy ≠ .onEveryRead) (resolver : Resolver m)
    (visible : List Variable) : directive.current resolver visible = pure (.ok kept.data) := by
  rw [current.eq_def, hkept]
  cases h : directive.policy with
  | onEveryRead => exact absurd h hpolicy
  | onEveryRefresh => rfl
  | onceAtCreation => rfl

/-- A directive that keeps no value is resolved. -/
theorem current_of_kept_eq_none (hkept : directive.kept = none) (resolver : Resolver m)
    (visible : List Variable) :
    directive.current resolver visible = directive.resolveData resolver visible := by
  rw [current.eq_def, hkept]

/-- A directive that is computed on every read is resolved, whatever it keeps. -/
theorem current_of_onEveryRead (hpolicy : directive.policy = .onEveryRead)
    (resolver : Resolver m) (visible : List Variable) :
    directive.current resolver visible = directive.resolveData resolver visible := by
  rw [current.eq_def, hpolicy]
  cases directive.kept <;> rfl

end Reads

/-- **Two directives that are read alike:** with and without resolution, by every resolver,
whatever the global variables are and whatever local variables are set first. -/
def ReadsAlike (first second : Directive) : Prop :=
  first.internal.data = second.internal.data ∧
    ∀ (m : Type → Type) [Monad m] (resolver : Resolver m) (visible locals : List Variable),
      current resolver visible { first with locals := locals } =
        current resolver visible { second with locals := locals }

/-- A resolver that is allowed no pass, so that it resolves nothing. -/
def withoutPasses : Resolver Id := ⟨.empty, ⟨0, 0, 0, false⟩, fun _ => .ok []⟩

/-- A new policy that keeps values is seen by reads only if it uncovers a kept value. -/
theorem readsAlike_policy_iff {directive changed : Directive} {policy : ResolvePolicy}
    (hchanged : changed = { directive with policy := policy }) (hpolicy : policy ≠ .onEveryRead)
    (hdata : directive.internal.data ≠ none) :
    changed.ReadsAlike directive ↔ (directive.policy = .onEveryRead → directive.kept = none) := by
  have hkeeps : changed.policy ≠ .onEveryRead := by
    rw [hchanged]
    exact hpolicy
  have hsame : changed.kept = directive.kept := by
    rw [hchanged]
  -- what is kept does not depend on the local variables
  have hnew : ∀ locals, ({ changed with locals := locals } : Directive).kept = directive.kept :=
    fun _ => hsame
  have hold : ∀ locals, ({ directive with locals := locals } : Directive).kept = directive.kept :=
    fun _ => rfl
  constructor
  · rintro ⟨-, hcurrent⟩ hread
    by_contra hkept
    obtain ⟨kept, hkept⟩ := Option.ne_none_iff_exists'.1 hkept
    obtain ⟨data, hdata⟩ := Option.ne_none_iff_exists'.1 hdata
    have hresolved : ({ directive with locals := [] } : Directive).policy = .onEveryRead := hread
    have hsome : ({ directive with locals := [] } : Directive).internal.data = some data := hdata
    -- the one returns the kept value, the other fails to compute it
    have heq := hcurrent Id withoutPasses [] []
    rw [current_of_kept ((hnew []).trans hkept) hkeeps, current_of_onEveryRead hresolved,
      resolveData, hsome] at heq
    cases heq
  · intro h
    refine ⟨by rw [hchanged], fun m _ resolver visible locals => ?_⟩
    rcases Option.eq_none_or_eq_some directive.kept with hkept | ⟨kept, hkept⟩
    · rw [current_of_kept_eq_none ((hnew locals).trans hkept),
        current_of_kept_eq_none ((hold locals).trans hkept), hchanged]
      rfl
    · have hread : directive.policy ≠ .onEveryRead := by
        intro hread
        rw [h hread] at hkept
        cases hkept
      rw [current_of_kept ((hnew locals).trans hkept) hkeeps,
        current_of_kept ((hold locals).trans hkept) hread]

/-! ## Updates -/

/-- **An update that computes a value,** and so may fail. -/
inductive Update where
  | setPolicy (policy : ResolvePolicy)
  | setData (data : Text)
  | refresh

namespace Update

/-- Makes an update. -/
def apply {m : Type → Type} [Monad m] (resolver : Resolver m) (visible : List Variable)
    (directive : Directive) : Update → m (Outcome Directive Unit)
  | .setPolicy policy => directive.setPolicy resolver visible policy
  | .setData data => directive.setData resolver visible data
  | .refresh => do pure ((← directive.refresh resolver visible).map fun _ => ())

/-- What an update has written when it begins to compute. -/
def begun (directive : Directive) : Update → Directive
  | .setPolicy policy => { directive with policy := policy }
  | .setData data => { directive with internal := { directive.internal with data := some data } }
  | .refresh => directive

/-- An update that writes what is there already. -/
def Repeats (directive : Directive) : Update → Prop
  | .setPolicy policy => directive.policy = policy
  | .setData data => directive.internal.data = some data
  | .refresh => True

/-- An update whose beginning is not seen by reads: it repeats the data, or it does not uncover
a value that was kept and passed over. -/
def Unseen (directive : Directive) : Update → Prop
  | .setPolicy _ => directive.policy = .onEveryRead → directive.kept = none
  | .setData data => directive.internal.data = some data
  | .refresh => True

variable {directive : Directive} {update : Update}

/-- The beginning of an update changes nothing if it writes what is there. -/
theorem begun_eq_iff : update.begun directive = directive ↔ update.Repeats directive := by
  obtain ⟨line, index, kind, raw, ⟨name, held⟩, kept, old, locals, used⟩ := directive
  cases update with
  | setPolicy policy => simp [begun, Repeats, eq_comm]
  | setData data => simp [begun, Repeats, eq_comm]
  | refresh => exact iff_of_true rfl trivial

/-- The beginning of an update that has to compute a value is read as the directive was if it
is unseen. -/
theorem begun_readsAlike_iff (hpolicy : update ≠ .setPolicy .onEveryRead)
    (hdata : (update.begun directive).internal.data ≠ none) :
    (update.begun directive).ReadsAlike directive ↔ update.Unseen directive := by
  cases update with
  | setPolicy policy =>
    have hkeeps : policy ≠ .onEveryRead := fun h => hpolicy (congrArg Update.setPolicy h)
    exact readsAlike_policy_iff rfl hkeeps hdata
  | setData data =>
    constructor
    · exact fun h => h.1.symm
    · intro h
      have hsame : (Update.setData data).begun directive = directive := begun_eq_iff.2 h
      rw [hsame]
      exact ⟨rfl, fun _ _ _ _ _ => rfl⟩
  | refresh => exact iff_of_true ⟨rfl, fun _ _ _ _ _ => rfl⟩ trivial

/-! ## Failures -/

variable {m : Type → Type} [Monad m] [LawfulMonad m]

/-- A property of what a failure leaves behind. -/
def OnFailure {α : Type} (P : Directive → Prop) (outcome : Outcome Directive α) : Prop :=
  ∀ error, outcome.result = .error error → P outcome.state

/-- Computing a value can only fail where there are data, and changes nothing then. -/
theorem materialize_onFailure (resolver : Resolver m) (visible : List Variable)
    (directive : Directive) :
    SatisfiesM
      (OnFailure (fun state : Directive => state = directive ∧ directive.internal.data ≠ none)
        : Outcome Directive Unit → Prop)
      (directive.materialize resolver visible) := by
  rw [materialize]
  cases hdata : directive.internal.data with
  | none =>
    rw [resolveData, hdata, pure_bind]
    exact .pure fun error h => nomatch h
  | some data =>
    refine SatisfiesM.trivial.bind fun result _ => ?_
    cases result with
    | ok data => exact .pure fun error h => nomatch h
    | error error => exact .pure fun _ _ => ⟨rfl, Option.some_ne_none data⟩

/-- A failure leaves what the update has begun with, and it is one of computing a value. -/
theorem apply_begun (update : Update) (resolver : Resolver m) (visible : List Variable)
    (directive : Directive) :
    SatisfiesM
      (OnFailure fun state => state = update.begun directive ∧
        update ≠ .setPolicy .onEveryRead ∧ (update.begun directive).internal.data ≠ none)
      (update.apply resolver visible directive) := by
  have hmaterialize := materialize_onFailure resolver visible (update.begun directive)
  cases update with
  | setPolicy policy =>
    have hpolicy : policy ≠ .onEveryRead → Update.setPolicy policy ≠ .setPolicy .onEveryRead :=
      fun hne heq => hne (Update.setPolicy.inj heq)
    cases policy with
    | onEveryRead => exact .pure fun error h => nomatch h
    | onEveryRefresh =>
      exact hmaterialize.imp fun h error herror =>
        ⟨(h error herror).1, hpolicy (by decide), (h error herror).2⟩
    | onceAtCreation =>
      exact hmaterialize.imp fun h error herror =>
        ⟨(h error herror).1, hpolicy (by decide), (h error herror).2⟩
  | setData data =>
    rw [apply, Directive.setData]
    split
    · exact hmaterialize.imp fun h error herror =>
        ⟨(h error herror).1, (nomatch ·), (h error herror).2⟩
    · exact .pure fun error h => nomatch h
  | refresh =>
    rw [apply, Directive.refresh]
    split
    · rw [bind_assoc]
      refine hmaterialize.bind fun outcome houtcome => ?_
      rw [pure_bind]
      refine .pure fun error herror => ?_
      obtain ⟨result, state⟩ := outcome
      cases result with
      | ok value => cases herror
      | error error' =>
        obtain ⟨hstate, hdata⟩ := houtcome error' rfl
        exact ⟨hstate, (nomatch ·), hdata⟩
    · rw [pure_bind]
      exact .pure fun error h => nomatch h

/-- **What a failed update leaves.** The directive is what the update has begun with. It is the
directive from before exactly if the update has written what was there, and it is read like that
exactly if the beginning of the update is unseen. A refresh that fails changes nothing. -/
theorem apply_onFailure (update : Update) (resolver : Resolver m) (visible : List Variable)
    (directive : Directive) :
    SatisfiesM
      (OnFailure fun state => state = update.begun directive ∧
        (state = directive ↔ update.Repeats directive) ∧
        (state.ReadsAlike directive ↔ update.Unseen directive))
      (update.apply resolver visible directive) := by
  refine (apply_begun update resolver visible directive).imp fun h error herror => ?_
  obtain ⟨hstate, hpolicy, hdata⟩ := h error herror
  rw [hstate]
  exact ⟨rfl, begun_eq_iff, begun_readsAlike_iff hpolicy hdata⟩

/-- New data of a container that end inside an expression. They stay, and are read. -/
theorem apply_onFailure_setData :
    ∃ state error,
      ((Update.setData ['\x7b']).apply (Resolver.of (.empty : Registry Id) .standard) []
        (emptyContainer ['x'] ['1'] .onEveryRead 1)).run = .failure error state ∧
      state ≠ emptyContainer ['x'] ['1'] .onEveryRead 1 ∧
      ¬ state.ReadsAlike (emptyContainer ['x'] ['1'] .onEveryRead 1) := by
  have hfailure := SatisfiesM_Id_eq.1 (apply_onFailure (.setData ['\x7b'])
    (Resolver.of (.empty : Registry Id) .standard) [] (emptyContainer ['x'] ['1'] .onEveryRead 1))
  obtain ⟨-, hstate, hreads⟩ := hfailure _ rfl
  have hnew : ¬ (Update.setData ['\x7b']).Repeats
      (emptyContainer ['x'] ['1'] .onEveryRead 1) := by
    intro h
    exact absurd (Option.some.inj h) (by decide)
  exact ⟨_, _, rfl, fun heq => hnew (hstate.1 heq), fun halike => hnew (hreads.1 halike)⟩

/-- A container that is resolved on every read, and the value of its variable changes. After a
policy that keeps values could not be set, the value from its creation is read. -/
theorem current_after_failed_setPolicy :
    ∃ directive state error,
      (container (Resolver.of (.empty : Registry Id) .standard) [⟨['g'], some ['1']⟩]
        ['x'] ['g'] .onEveryRead 1).run = .ok directive ∧
      ((Update.setPolicy .onceAtCreation).apply (Resolver.of (.empty : Registry Id) .standard)
        [⟨['g'], some ['\x7b']⟩] directive).run = .failure error state ∧
      state ≠ directive ∧
      (directive.current (Resolver.of (.empty : Registry Id) .standard)
        [⟨['g'], some ['2']⟩]).run = .ok (some ['2']) ∧
      (state.current (Resolver.of (.empty : Registry Id) .standard)
        [⟨['g'], some ['2']⟩]).run = .ok (some ['1']) := by
  refine ⟨_, _, _, rfl, rfl, ?_, rfl, rfl⟩
  decide

end Update

end MapScript.Directive
