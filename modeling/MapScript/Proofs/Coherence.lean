/-
The table of global variables after a refresh.

An entry that is computed on refreshes can be stale, since an entry before it may have been
defined again. A refresh computes it where the entries before it can be seen as the refresh has
left them, and later steps of the refresh do not touch these (`refreshedTo_of_refreshFrom`). So the
whole table is as if each of its entries had just been resolved, apart from those that are computed
once (`refreshAll_coherent`), and to refresh it again changes nothing. A refresh that fails has done
all this for the entries before the one it fails at, and nothing else.

Tables are built by definitions, refreshes and clearing (`Change`), and each of these may fail.
All that matters of the history is that every entry is a container with its value
(`allHolding_afterChanges`).
-/
import MapScript.Proofs.ErrorLines
import MapScript.Proofs.Tables

set_option autoImplicit false

namespace MapScript.Globals

/-! ## Tables and their histories -/

/-- **A change of a table,** which may fail. -/
inductive Change where
  | define (resolver : Resolver Id) (name data : Text) (policy : ResolvePolicy) (index : Nat)
  | refreshAll (resolver : Resolver Id)
  | clear

/-- The table that a change leaves. -/
def Change.apply (globals : Globals) : Change → Globals
  | .define resolver name data policy index =>
    (globals.define resolver name data policy index).run.state
  | .refreshAll resolver => (globals.refreshAll resolver).run.state
  | .clear => .empty

/-- **The table after changes** of the empty one. -/
def afterChanges (changes : List Change) : Globals := changes.foldl Change.apply .empty

/-- Entries that are containers with their values. -/
def AllHolding (entries : List Directive) : Prop :=
  ∀ entry ∈ entries, ∃ name data policy index text,
    entry = .holding name data policy index text

variable {resolver : Resolver Id} {entries done before : List Directive}
  {entry entry' : Directive}

/-- A refresh leaves a container a container. -/
theorem RefreshesTo.holding (h : RefreshesTo resolver before entry entry')
    (hentry : ∃ name data policy index text, entry = .holding name data policy index text) :
    ∃ name data policy index text, entry' = .holding name data policy index text := by
  cases h with
  | passed hpolicy => exact hentry
  | recomputed hpolicy hvisible hdata =>
    obtain ⟨name, data, policy, index, text, rfl⟩ := hentry
    obtain ⟨now, -, rfl⟩ := Directive.of_resolveData_holding hdata
    exact ⟨name, data, policy, index, now, rfl⟩

/-- So does the refresh of several, whether it succeeds or fails. -/
theorem allHolding_refreshFrom (hdone : AllHolding done) (hentries : AllHolding entries) :
    AllHolding (refreshFrom resolver done entries).run.state.entries := by
  induction entries generalizing done with
  | nil => exact hdone
  | cons entry rest ih =>
    obtain ⟨hentry, hrest⟩ := List.forall_mem_cons.1 hentries
    rcases refreshesTo_or_fails resolver done entry with ⟨entry', h⟩ | ⟨error, h⟩
    · rw [refreshFrom_cons_of_refreshesTo h]
      refine ih (List.forall_mem_append.2 ⟨hdone, ?_⟩) hrest
      exact List.forall_mem_singleton.2 (h.holding hentry)
    · rw [refreshFrom_cons_of_fails h]
      exact List.forall_mem_append.2 ⟨hdone, hentries⟩

/-- A change keeps the entries containers. -/
theorem allHolding_apply {globals : Globals} (h : AllHolding globals.entries)
    (change : Change) : AllHolding (change.apply globals).entries := by
  cases change with
  | define resolver name data policy index =>
    change AllHolding (globals.define resolver name data policy index).run.state.entries
    rw [define_eq]
    split
    · rename_i built hbuilt
      obtain ⟨visible, text, -, -, rfl⟩ := of_entryAfter_eq_ok hbuilt
      intro entry hentry
      rcases mem_place hentry with rfl | hold
      · exact ⟨name, data, policy, index, text, rfl⟩
      · exact h entry hold
    · exact h
  | refreshAll resolver => exact allHolding_refreshFrom (fun _ hentry => nomatch hentry) h
  | clear => exact fun _ hentry => nomatch hentry

/-- **The entries of a table are containers,** whatever has happened to it. -/
theorem allHolding_afterChanges (changes : List Change) :
    AllHolding (afterChanges changes).entries := by
  have hfold : ∀ globals : Globals, AllHolding globals.entries →
      AllHolding (changes.foldl Change.apply globals).entries := by
    induction changes with
    | nil => exact fun _ h => h
    | cons change rest ih => exact fun globals h => ih _ (allHolding_apply h change)
  exact hfold .empty fun _ hentry => nomatch hentry

/-! ## What a refresh leaves -/

/-- **Entries and what a refresh makes of them:** each is computed anew, if its policy asks for
that, where those before it can be seen as they are after the refresh. -/
def RefreshedTo (resolver : Resolver Id) (entries entries' : List Directive) : Prop :=
  entries'.length = entries.length ∧
    ∀ i entry, entries[i]? = some entry →
      ∃ entry', entries'[i]? = some entry' ∧ RefreshesTo resolver (entries'.take i) entry entry'

/-- Entries without the values they keep. -/
def withoutValues (entries : List Directive) : List Directive :=
  entries.map fun entry => { entry with kept := none }

/-- **Nothing but values is new after a refresh:** names, order, data and policies are as before. -/
theorem RefreshedTo.withoutValues_eq {entries' : List Directive}
    (h : RefreshedTo resolver entries entries') :
    withoutValues entries' = withoutValues entries := by
  refine List.ext_getElem? fun i => ?_
  rw [withoutValues, withoutValues, List.getElem?_map, List.getElem?_map]
  cases hentry : entries[i]? with
  | none =>
    rw [List.getElem?_eq_none_iff, ← h.1, ← List.getElem?_eq_none_iff] at hentry
    rw [hentry]
  | some entry =>
    obtain ⟨entry', hentry', hstep⟩ := h.2 i entry hentry
    obtain ⟨kept, rfl⟩ := hstep.eq_withKept
    rw [hentry']
    rfl

/-- **The entries before the one that is computed are left alone by the rest of the refresh.** -/
theorem refreshedTo_of_refreshFrom {refreshed : Globals}
    (h : (refreshFrom resolver [] entries).run = .success () refreshed) :
    RefreshedTo resolver entries refreshed.entries := by
  obtain ⟨own, hown, hlength⟩ := eq_append_of_refreshFrom h
  refine ⟨by rw [hown, List.nil_append, hlength], fun i entry hentry => ?_⟩
  obtain ⟨hlt, hget⟩ := List.getElem?_eq_some_iff.1 hentry
  have hsplit : entries = entries.take i ++ entry :: entries.drop (i + 1) := by
    rw [← hget, List.getElem_cons_drop, List.take_append_drop]
  rw [hsplit] at h
  obtain ⟨middle, hmiddle, hrest⟩ := of_refreshFrom_append_eq_success h
  obtain ⟨entry', hstep, hafter⟩ := of_refreshFrom_cons_eq_success hrest
  obtain ⟨first, hfirst, hfirstLength⟩ := eq_append_of_refreshFrom hmiddle
  obtain ⟨last, hlast, -⟩ := eq_append_of_refreshFrom hafter
  have hposition : middle.entries.length = i := by
    rw [hfirst, List.nil_append, hfirstLength, List.length_take, Nat.min_eq_left hlt.le]
  rw [List.append_assoc, List.singleton_append] at hlast
  refine ⟨entry', ?_, ?_⟩
  · rw [hlast, ← hposition, List.getElem?_append_right (Nat.le_refl _), Nat.sub_self,
      List.getElem?_cons_zero]
  · rw [hlast, List.take_left' hposition]
    exact hstep

/-- **To refresh again changes nothing.** -/
theorem refreshFrom_of_refreshed {own : List Directive} {refreshed : Globals}
    (h : (refreshFrom resolver done entries).run = .success () refreshed)
    (hown : refreshed.entries = done ++ own) :
    (refreshFrom resolver done own).run = .success () refreshed := by
  induction entries generalizing done own with
  | nil =>
    injection h with hresult hstate
    have hnone : done ++ own = done ++ [] := by
      rw [← hown, ← hstate, List.append_nil]
    rw [List.append_cancel_left hnone, ← hstate]
    rfl
  | cons entry rest ih =>
    obtain ⟨entry', hstep, hrest⟩ := of_refreshFrom_cons_eq_success h
    obtain ⟨later, hlater, -⟩ := eq_append_of_refreshFrom hrest
    have hcons : done ++ own = done ++ entry' :: later := by
      rw [← hown, hlater, List.append_assoc, List.singleton_append]
    rw [List.append_cancel_left hcons, refreshFrom_cons_of_refreshesTo hstep.idem]
    exact ih hrest hlater

/-- **A refresh that fails has refreshed the entries before the one it fails at.** -/
theorem of_refreshFrom_eq_failure {error : ScriptError} {left : Globals}
    (h : (refreshFrom resolver done entries).run = .failure error left) :
    ∃ before entry rest middle, entries = before ++ entry :: rest ∧
      (refreshFrom resolver done before).run = .success () middle ∧
      RefreshFails resolver middle.entries entry error ∧
      left.entries = middle.entries ++ entry :: rest := by
  induction entries generalizing done with
  | nil =>
    injection h with hresult hstate
    cases hresult
  | cons entry rest ih =>
    rcases refreshesTo_or_fails resolver done entry with ⟨entry', hstep⟩ | ⟨error', hstep⟩
    · rw [refreshFrom_cons_of_refreshesTo hstep] at h
      obtain ⟨before, failing, after, middle, rfl, hmiddle, hfails, hleft⟩ := ih h
      refine ⟨entry :: before, failing, after, middle, rfl, ?_, hfails, hleft⟩
      rw [refreshFrom_cons_of_refreshesTo hstep, hmiddle]
    · rw [refreshFrom_cons_of_fails hstep] at h
      injection h with hresult hstate
      cases hresult
      exact ⟨[], entry, rest, ⟨done⟩, rfl, rfl, hstep, by rw [← hstate]⟩

/-! ## Coherence -/

/-- **A snapshot that fits its table:** an entry that is computed once has the value it keeps, and
any other one has what its data resolve to, without local variables, where the variables before it
can be seen. -/
structure Coherent (resolver : Resolver Id) (entries : List Directive) (vars : List Variable) :
    Prop where
  names : vars.map (·.name) = entries.map (·.name)
  once : ∀ (i : Nat) (entry : Directive), entries[i]? = some entry →
    entry.policy = .onceAtCreation → vars[i]? = entry.kept
  resolved : ∀ (i : Nat) (entry : Directive), entries[i]? = some entry →
    entry.policy ≠ .onceAtCreation →
    ∃ data text, entry.internal.data = some data ∧
      (resolver.resolve ⟨[], vars.take i⟩ data).run = .ok text ∧
      vars[i]? = some ⟨entry.name, some text⟩

/-- An entry that has been computed by a refresh is read as it was computed then. -/
theorem RefreshesTo.current_eq (h : RefreshesTo resolver before entry entry')
    (hpolicy : entry'.policy = .onEveryRefresh) :
    ∃ visible data, (snapshotFrom resolver [] before).run = .ok visible ∧
      (entry'.resolveData resolver visible).run = .ok data ∧
      ∀ others, (entry'.current resolver others).run = .ok data := by
  cases h with
  | passed hpassed => exact absurd hpolicy hpassed
  | recomputed hrefresh hvisible hdata =>
    refine ⟨_, _, hvisible, hdata, fun others => ?_⟩
    rw [Directive.current_of_kept rfl (hpolicy.trans_ne (by decide))]
    rfl

/-- **After a refresh every snapshot fits.** The snapshot of the entries before one is the one it
was computed with. -/
theorem coherent_of_refreshedTo {entries' : List Directive} {vars : List Variable}
    (hentries : AllHolding entries') (h : RefreshedTo resolver entries entries')
    (hvars : (snapshotFrom resolver [] entries').run = .ok vars) :
    Coherent resolver entries' vars := by
  refine ⟨names_of_snapshotFrom hvars, fun i entry hentry hpolicy => ?_,
    fun i entry hentry hpolicy => ?_⟩
  · obtain ⟨data, hcurrent, hvar⟩ := current_of_snapshot hvars hentry
    obtain ⟨name, held, policy, index, text, rfl⟩ := hentries entry (List.mem_of_getElem? hentry)
    rw [Directive.current_of_kept rfl (hpolicy.trans_ne (by decide))] at hcurrent
    cases hcurrent
    exact hvar
  · obtain ⟨data, hcurrent, hvar⟩ := current_of_snapshot hvars hentry
    have hresolved : (entry.resolveData resolver (vars.take i)).run = .ok data := by
      cases hread : entry.policy with
      | onceAtCreation => exact absurd hread hpolicy
      | onEveryRead =>
        rwa [Directive.current_of_onEveryRead hread] at hcurrent
      | onEveryRefresh =>
        obtain ⟨hlt, -⟩ := List.getElem?_eq_some_iff.1 hentry
        obtain ⟨old, hold⟩ : ∃ old, entries[i]? = some old :=
          ⟨_, List.getElem?_eq_getElem (h.1 ▸ hlt)⟩
        obtain ⟨new, hnew, hstep⟩ := h.2 i old hold
        obtain rfl : entry = new := Option.some.inj (hentry.symm.trans hnew)
        obtain ⟨visible, kept, hvisible, hdata, hread'⟩ := hstep.current_eq hread
        have hsame : vars.take i = visible :=
          Except.ok.inj ((snapshotFrom_take hvars i).symm.trans hvisible)
        rw [hread'] at hcurrent
        rw [hsame, hdata, hcurrent]
    obtain ⟨name, held, policy, index, text, rfl⟩ := hentries entry (List.mem_of_getElem? hentry)
    obtain ⟨now, hnow, rfl⟩ := Directive.of_resolveData_holding hresolved
    exact ⟨held, now, rfl, hnow, hvar⟩

/-- **The table after a refresh,** whatever has happened to it before.

* If the refresh succeeds, each entry that is computed on refreshes has been computed where the
  refreshed entries before it can be seen, and the others are as they were. A second refresh
  succeeds and changes nothing, and if the table can be read, the snapshot fits it.
* If it fails, it fails at an entry that is computed on refreshes: either the entries before it,
  refreshed as above, cannot be read, or it does not resolve where they can be seen. This entry and
  those after it are as they were. -/
theorem refreshAll_coherent (changes : List Change) (resolver : Resolver Id) :
    (∀ refreshed, ((afterChanges changes).refreshAll resolver).run = .success () refreshed →
      RefreshedTo resolver (afterChanges changes).entries refreshed.entries ∧
      withoutValues refreshed.entries = withoutValues (afterChanges changes).entries ∧
      (refreshed.refreshAll resolver).run = .success () refreshed ∧
      ∀ vars, (refreshed.snapshot resolver).run = .ok vars →
        Coherent resolver refreshed.entries vars) ∧
    ∀ error left, ((afterChanges changes).refreshAll resolver).run = .failure error left →
      ∃ before before' entry rest, (afterChanges changes).entries = before ++ entry :: rest ∧
        left.entries = before' ++ entry :: rest ∧ RefreshedTo resolver before before' ∧
        RefreshFails resolver before' entry error := by
  refine ⟨fun refreshed h => ?_, fun error left h => ?_⟩
  · have hrefreshed := refreshedTo_of_refreshFrom h
    refine ⟨hrefreshed, hrefreshed.withoutValues_eq,
      refreshFrom_of_refreshed h (List.nil_append _).symm,
      fun vars hvars => coherent_of_refreshedTo ?_ hrefreshed hvars⟩
    have hall := allHolding_afterChanges (changes ++ [.refreshAll resolver])
    rw [afterChanges, List.foldl_append] at hall
    change AllHolding ((afterChanges changes).refreshAll resolver).run.state.entries at hall
    rwa [h] at hall
  · obtain ⟨before, entry, rest, middle, hsplit, hmiddle, hfails, hleft⟩ :=
      of_refreshFrom_eq_failure h
    exact ⟨before, middle.entries, entry, rest, hsplit, hleft,
      refreshedTo_of_refreshFrom hmiddle, hfails⟩

/-- A variable that is defined, one that is computed from it on refreshes, and one that is computed
from both on every read; then the first is defined again. -/
def redefined (data : Text) : List Change :=
  [.define .withoutFunctions ['a'] ['1'] .onceAtCreation 1,
    .define .withoutFunctions ['b'] ['\\', 'a'] .onEveryRefresh 2,
    .define .withoutFunctions ['c'] ['b', 'a'] .onEveryRead 3,
    .define .withoutFunctions ['a'] data .onceAtCreation 4]

/-- The second variable is stale, and the third is computed from it and from the new value. After a
refresh all fit. Where the new value makes a brace of the second variable an opening one, the
refresh fails there and leaves the table as it is. -/
theorem refreshAll_coherent_redefined :
    (∃ refreshed vars,
      ((afterChanges (redefined ['5'])).refreshAll .withoutFunctions).run =
        .success () refreshed ∧
      (refreshed.snapshot .withoutFunctions).run = .ok vars ∧
      vars[1]? = some ⟨['b'], some ['\\', '5']⟩ ∧ vars[2]? = some ⟨['c'], some ['\\', '5', '5']⟩ ∧
      Coherent .withoutFunctions refreshed.entries vars) ∧
    ∃ error left, ((afterChanges (redefined ['\\', '\x7b'])).refreshAll
        .withoutFunctions).run = .failure error left ∧
      left.entries = (afterChanges (redefined ['\\', '\x7b'])).entries ∧
      ∃ before entry, RefreshFails .withoutFunctions before entry error := by
  obtain ⟨hsuccess, -⟩ := refreshAll_coherent (redefined ['5']) .withoutFunctions
  obtain ⟨-, hfailure⟩ := refreshAll_coherent (redefined ['\\', '\x7b']) .withoutFunctions
  refine ⟨⟨_, _, rfl, rfl, rfl, rfl, (hsuccess _ rfl).2.2.2 _ rfl⟩, _, _, rfl, rfl, ?_⟩
  obtain ⟨before, before', entry, rest, -, -, -, hfails⟩ := hfailure _ _ rfl
  exact ⟨before', entry, hfails⟩

end MapScript.Globals
