/-
What the operations on the table of global variables do.

A table is read and refreshed from left to right, and each entry is computed where the entries
before it can be seen. So what holds of it is said of a part and the rest: reading the entries of
two lists is reading the first and then, with what can be seen by then, the second
(`snapshotFrom_append`), and the same holds of refreshing (`refreshFrom_append`). What one entry
contributes is said once, in `current_of_snapshot` for reading and in `RefreshesTo` and
`RefreshFails` for refreshing.

An entry is a container (`holding`). It has no local variables, and it has been computed from its
data alone and from the variables that could be seen when it was defined.
-/
import MapScript.Globals
import MapScript.Proofs.Updates

set_option autoImplicit false

namespace MapScript

/-- A resolver that knows no functions, with the usual limits. -/
def Resolver.withoutFunctions : Resolver Id := .of .empty .standard

/-! ## Containers -/

namespace Directive

/-- **A container with the value** that its data have been resolved to. -/
def holding (name data : Text) (policy : ResolvePolicy) (index : Nat) (text : Text) : Directive :=
  { emptyContainer name data policy index with kept := some ⟨name, some text⟩ }

/-- A container is built by resolving its data without local variables. -/
theorem container_eq {m : Type → Type} [Monad m] [LawfulMonad m] (resolver : Resolver m)
    (visible : List Variable) (name data : Text) (policy : ResolvePolicy) (index : Nat) :
    container resolver visible name data policy index = (do
      match ← resolver.resolve ⟨[], visible⟩ data with
      | .ok text => pure (.ok (holding name data policy index text))
      | .error error => pure (.error (error.atLine index (name ++ ':' :: data)))) := by
  have hresolve : (emptyContainer name data policy index).resolveData resolver visible = (do
      match ← resolver.resolve ⟨[], visible⟩ data with
      | .ok text => pure (.ok (some text))
      | .error error => pure (.error (error.atLine index (name ++ ':' :: data)))) := rfl
  rw [container, materialize, hresolve, bind_assoc, bind_assoc]
  refine congrArg (resolver.resolve ⟨[], visible⟩ data >>= ·) (funext fun result => ?_)
  cases result with
  | ok text =>
    rw [pure_bind, pure_bind]
    rfl
  | error error =>
    rw [pure_bind, pure_bind]
    rfl

variable {resolver : Resolver Id} {visible : List Variable} {name data text : Text}
  {policy : ResolvePolicy} {index : Nat}

/-- A container that could be built holds the resolution of its data. -/
theorem of_container_eq_ok {built : Directive}
    (h : (container resolver visible name data policy index).run = .ok built) :
    ∃ text, (resolver.resolve ⟨[], visible⟩ data).run = .ok text ∧
      built = holding name data policy index text := by
  rw [container_eq, Id.run_bind] at h
  cases hresolve : (resolver.resolve ⟨[], visible⟩ data).run with
  | error error =>
    rw [hresolve] at h
    cases h
  | ok text =>
    rw [hresolve] at h
    exact ⟨text, rfl, (Except.ok.inj h).symm⟩

/-- Where a container has been built it can be read, and its value is the one it has been built
with. -/
theorem current_holding (h : (resolver.resolve ⟨[], visible⟩ data).run = .ok text) :
    ((holding name data policy index text).current resolver visible).run = .ok (some text) := by
  cases policy with
  | onEveryRefresh => rfl
  | onceAtCreation => rfl
  | onEveryRead =>
    have hdata : (holding name data .onEveryRead index text).internal.data = some data := rfl
    have hlocals : (holding name data .onEveryRead index text).locals = [] := rfl
    rw [current_of_onEveryRead rfl, resolveData, hdata, hlocals]
    dsimp only
    rw [Id.run_bind, h]
    rfl

/-- A container that is computed where others can be seen is resolved without local variables. -/
theorem of_resolveData_holding {value : Option Text}
    (h : ((holding name data policy index text).resolveData resolver visible).run = .ok value) :
    ∃ now, (resolver.resolve ⟨[], visible⟩ data).run = .ok now ∧ value = some now := by
  have hdata : (holding name data policy index text).internal.data = some data := rfl
  have hlocals : (holding name data policy index text).locals = [] := rfl
  rw [resolveData, hdata, hlocals] at h
  dsimp only at h
  rw [Id.run_bind] at h
  cases hresolve : (resolver.resolve ⟨[], visible⟩ data).run with
  | error error =>
    rw [hresolve] at h
    cases h
  | ok now =>
    rw [hresolve] at h
    exact ⟨now, rfl, (Except.ok.inj h).symm⟩

end Directive

namespace Globals

variable {resolver : Resolver Id} {visible vars : List Variable}
  {entries first second : List Directive} {entry : Directive}

/-! ## Reading -/

/-- The first entry is read, and then the others where it can be seen. -/
theorem snapshotFrom_cons (resolver : Resolver Id) (visible : List Variable) (entry : Directive)
    (rest : List Directive) :
    (snapshotFrom resolver visible (entry :: rest)).run =
      match (entry.current resolver visible).run with
      | .ok data => (snapshotFrom resolver (visible ++ [⟨entry.name, data⟩]) rest).run
      | .error error => .error error := by
  rw [snapshotFrom, Id.run_bind]
  cases (entry.current resolver visible).run <;> rfl

/-- **Entries are read, and then those after them** where they can be seen. -/
theorem snapshotFrom_append (resolver : Resolver Id) (visible : List Variable)
    (first second : List Directive) :
    (snapshotFrom resolver visible (first ++ second)).run =
      match (snapshotFrom resolver visible first).run with
      | .ok middle => (snapshotFrom resolver middle second).run
      | .error error => .error error := by
  induction first generalizing visible with
  | nil => rfl
  | cons entry rest ih =>
    rw [List.cons_append, snapshotFrom_cons, snapshotFrom_cons]
    cases (entry.current resolver visible).run with
    | ok data => exact ih _
    | error error => rfl

/-- A container is read after the entries it has been computed after, and then the others are. -/
theorem snapshotFrom_append_holding {name data text : Text} {policy : ResolvePolicy} {index : Nat}
    (hfirst : (snapshotFrom resolver [] first).run = .ok visible)
    (htext : (resolver.resolve ⟨[], visible⟩ data).run = .ok text) (rest : List Directive) :
    (snapshotFrom resolver [] (first ++ .holding name data policy index text :: rest)).run =
      (snapshotFrom resolver (visible ++ [⟨name, some text⟩]) rest).run := by
  rw [snapshotFrom_append, hfirst]
  dsimp only
  rw [snapshotFrom_cons, Directive.current_holding htext]
  rfl

/-- If entries can be read, so can the first of them. -/
theorem of_snapshotFrom_append_eq_ok
    (h : (snapshotFrom resolver visible (first ++ second)).run = .ok vars) :
    ∃ middle, (snapshotFrom resolver visible first).run = .ok middle ∧
      (snapshotFrom resolver middle second).run = .ok vars := by
  rw [snapshotFrom_append] at h
  cases hfirst : (snapshotFrom resolver visible first).run with
  | ok middle =>
    rw [hfirst] at h
    exact ⟨middle, rfl, h⟩
  | error error =>
    rw [hfirst] at h
    cases h

/-- If entries cannot be read, there is a first one that cannot. -/
theorem of_snapshotFrom_eq_error {error : ScriptError}
    (h : (snapshotFrom resolver visible entries).run = .error error) :
    ∃ before entry after vars, entries = before ++ entry :: after ∧
      (snapshotFrom resolver visible before).run = .ok vars ∧
      (entry.current resolver vars).run = .error error := by
  induction entries generalizing visible with
  | nil => cases h
  | cons entry rest ih =>
    rw [snapshotFrom_cons] at h
    cases hdata : (entry.current resolver visible).run with
    | error error' =>
      rw [hdata] at h
      cases h
      exact ⟨[], entry, rest, visible, rfl, rfl, hdata⟩
    | ok data =>
      rw [hdata] at h
      obtain ⟨before, failing, after, vars, rfl, hbefore, hfailing⟩ := ih h
      refine ⟨entry :: before, failing, after, vars, rfl, ?_, hfailing⟩
      rw [snapshotFrom_cons, hdata]
      exact hbefore

/-- What could be seen before stays, and each entry adds a variable of its name. -/
theorem eq_append_of_snapshotFrom
    (h : (snapshotFrom resolver visible entries).run = .ok vars) :
    ∃ own, vars = visible ++ own ∧ own.map (·.name) = entries.map (·.name) := by
  induction entries generalizing visible with
  | nil =>
    cases h
    exact ⟨[], (List.append_nil _).symm, rfl⟩
  | cons entry rest ih =>
    rw [snapshotFrom_cons] at h
    split at h
    · rename_i data hdata
      obtain ⟨own, rfl, hnames⟩ := ih h
      refine ⟨⟨entry.name, data⟩ :: own, List.append_assoc .., ?_⟩
      rw [List.map_cons, List.map_cons, hnames]
    · cases h

/-- A snapshot has the names of the table. -/
theorem names_of_snapshotFrom (h : (snapshotFrom resolver [] entries).run = .ok vars) :
    vars.map (·.name) = entries.map (·.name) := by
  obtain ⟨own, rfl, hnames⟩ := eq_append_of_snapshotFrom h
  exact hnames

/-- It has one variable for each entry. -/
theorem length_of_snapshotFrom (h : (snapshotFrom resolver [] entries).run = .ok vars) :
    vars.length = entries.length := by
  rw [← List.length_map (·.name), names_of_snapshotFrom h, List.length_map]

/-- What has the length of the first part of a list, followed by what has the length of the rest,
begins with it. -/
theorem take_append_eq_left {α : Type} {first own : List α} {count length : Nat}
    (hfirst : first.length = min count length) (hown : own.length = length - count) :
    (first ++ own).take count = first := by
  rcases Nat.le_total count length with hle | hle
  · exact List.take_left' (hfirst.trans (Nat.min_eq_left hle))
  · -- nothing is left
    have hnone : own = [] :=
      List.length_eq_zero_iff.1 (hown.trans (Nat.sub_eq_zero_of_le hle))
    rw [hnone, List.append_nil, List.take_of_length_le (hfirst.trans_le (Nat.min_le_left ..))]

/-- **The first variables are those of the first entries.** -/
theorem snapshotFrom_take (h : (snapshotFrom resolver [] entries).run = .ok vars) (count : Nat) :
    (snapshotFrom resolver [] (entries.take count)).run = .ok (vars.take count) := by
  rw [← List.take_append_drop count entries] at h
  obtain ⟨middle, hmiddle, hrest⟩ := of_snapshotFrom_append_eq_ok h
  obtain ⟨own, rfl, hnames⟩ := eq_append_of_snapshotFrom hrest
  have hfirst : middle.length = min count entries.length :=
    (length_of_snapshotFrom hmiddle).trans List.length_take
  have hown : own.length = entries.length - count := by
    rw [← List.length_map (·.name), hnames, List.length_map, List.length_drop]
  rw [hmiddle, take_append_eq_left hfirst hown]

/-- **Each variable is the value of its entry,** read where those before it can be seen. -/
theorem current_of_snapshot (h : (snapshotFrom resolver [] entries).run = .ok vars) {i : Nat}
    (hentry : entries[i]? = some entry) :
    ∃ data, (entry.current resolver (vars.take i)).run = .ok data ∧
      vars[i]? = some ⟨entry.name, data⟩ := by
  have hsnoc : entries.take (i + 1) = entries.take i ++ [entry] := by
    rw [List.take_add_one, hentry, Option.toList_some]
  have hnext := snapshotFrom_take h (i + 1)
  rw [hsnoc, snapshotFrom_append, snapshotFrom_take h i] at hnext
  dsimp only at hnext
  rw [snapshotFrom_cons] at hnext
  cases hdata : (entry.current resolver (vars.take i)).run with
  | error error =>
    rw [hdata] at hnext
    cases hnext
  | ok data =>
    rw [hdata] at hnext
    refine ⟨data, rfl, ?_⟩
    have hvars : vars.take (i + 1) = vars.take i ++ [⟨entry.name, data⟩] :=
      (Except.ok.inj hnext).symm
    rw [List.take_add_one] at hvars
    exact Option.toList_eq_singleton_iff.1 (List.append_cancel_left hvars)

/-! ## Refreshing -/

/-- **What a refresh makes of an entry** where the entries before it are `before`. It is computed
anew if its policy asks for that. -/
inductive RefreshesTo (resolver : Resolver Id) (before : List Directive) (entry : Directive) :
    Directive → Prop where
  | passed (hpolicy : entry.policy ≠ .onEveryRefresh) : RefreshesTo resolver before entry entry
  | recomputed (hpolicy : entry.policy = .onEveryRefresh) {visible : List Variable}
    (hvisible : (snapshotFrom resolver [] before).run = .ok visible) {data : Option Text}
    (hdata : (entry.resolveData resolver visible).run = .ok data) :
    RefreshesTo resolver before entry { entry with kept := some ⟨entry.name, data⟩ }

/-- **Why an entry cannot be refreshed:** those before it cannot be read, or it does not resolve
where they can be seen. -/
inductive RefreshFails (resolver : Resolver Id) (before : List Directive) (entry : Directive)
    (error : ScriptError) : Prop where
  | unreadable (hpolicy : entry.policy = .onEveryRefresh)
    (hvisible : (snapshotFrom resolver [] before).run = .error error) :
    RefreshFails resolver before entry error
  | unresolved (hpolicy : entry.policy = .onEveryRefresh) {visible : List Variable}
    (hvisible : (snapshotFrom resolver [] before).run = .ok visible)
    (hdata : (entry.resolveData resolver visible).run = .error error) :
    RefreshFails resolver before entry error

/-- Name, data and policy are what they were; a value may be new. -/
theorem RefreshesTo.eq_withKept {before : List Directive} {entry' : Directive}
    (h : RefreshesTo resolver before entry entry') :
    ∃ kept, entry' = { entry with kept := kept } := by
  cases h with
  | passed hpolicy => exact ⟨entry.kept, rfl⟩
  | recomputed hpolicy hvisible hdata => exact ⟨_, rfl⟩

/-- **A second refresh computes the same,** because what is kept is not looked at. -/
theorem RefreshesTo.idem {before : List Directive} {entry' : Directive}
    (h : RefreshesTo resolver before entry entry') :
    RefreshesTo resolver before entry' entry' := by
  cases h with
  | passed hpolicy => exact .passed hpolicy
  | @recomputed hpolicy visible hvisible data hdata =>
    exact @RefreshesTo.recomputed resolver before { entry with kept := some ⟨entry.name, data⟩ }
      hpolicy visible hvisible data hdata

/-- An entry is refreshed, or it cannot be. -/
theorem refreshesTo_or_fails (resolver : Resolver Id) (before : List Directive)
    (entry : Directive) :
    (∃ entry', RefreshesTo resolver before entry entry') ∨
      ∃ error, RefreshFails resolver before entry error := by
  by_cases hpolicy : entry.policy = .onEveryRefresh
  · cases hvisible : (snapshotFrom resolver [] before).run with
    | error error => exact .inr ⟨error, .unreadable hpolicy hvisible⟩
    | ok visible =>
      cases hdata : (entry.resolveData resolver visible).run with
      | error error => exact .inr ⟨error, .unresolved hpolicy hvisible hdata⟩
      | ok data => exact .inl ⟨_, .recomputed hpolicy hvisible hdata⟩
  · exact .inl ⟨entry, .passed hpolicy⟩

variable {done rest : List Directive}

/-- An entry that can be refreshed is, and then those after it are. -/
theorem refreshFrom_cons_of_refreshesTo {entry' : Directive}
    (h : RefreshesTo resolver done entry entry') (rest : List Directive) :
    (refreshFrom resolver done (entry :: rest)).run =
      (refreshFrom resolver (done ++ [entry']) rest).run := by
  cases h with
  | passed hpolicy => rw [refreshFrom, if_pos hpolicy]
  | recomputed hpolicy hvisible hdata =>
    rw [refreshFrom, if_neg (not_not_intro hpolicy), Id.run_bind, hvisible]
    dsimp only
    rw [Id.run_bind, Directive.refresh, if_pos hpolicy, Id.run_bind, Directive.materialize,
      Id.run_bind, hdata]
    rfl

/-- An entry that cannot be refreshed ends the refresh. -/
theorem refreshFrom_cons_of_fails {error : ScriptError}
    (h : RefreshFails resolver done entry error) (rest : List Directive) :
    (refreshFrom resolver done (entry :: rest)).run = .failure error ⟨done ++ entry :: rest⟩ := by
  cases h with
  | unreadable hpolicy hvisible =>
    rw [refreshFrom, if_neg (not_not_intro hpolicy), Id.run_bind, hvisible]
    rfl
  | unresolved hpolicy hvisible hdata =>
    rw [refreshFrom, if_neg (not_not_intro hpolicy), Id.run_bind, hvisible]
    dsimp only
    rw [Id.run_bind, Directive.refresh, if_pos hpolicy, Id.run_bind, Directive.materialize,
      Id.run_bind, hdata]
    rfl

/-- **Entries are refreshed, and then those after them.** A failure leaves those after it as they
are. -/
theorem refreshFrom_append (resolver : Resolver Id) (done first second : List Directive) :
    (refreshFrom resolver done (first ++ second)).run =
      match (refreshFrom resolver done first).run with
      | ⟨.ok _, state⟩ => (refreshFrom resolver state.entries second).run
      | ⟨.error error, state⟩ => .failure error ⟨state.entries ++ second⟩ := by
  induction first generalizing done with
  | nil => rfl
  | cons entry rest ih =>
    rw [List.cons_append]
    rcases refreshesTo_or_fails resolver done entry with ⟨entry', h⟩ | ⟨error, h⟩
    · rw [refreshFrom_cons_of_refreshesTo h, refreshFrom_cons_of_refreshesTo h, ih]
    · rw [refreshFrom_cons_of_fails h, refreshFrom_cons_of_fails h]
      have hrest : done ++ entry :: (rest ++ second) = (done ++ entry :: rest) ++ second := by
        rw [List.append_assoc, List.cons_append]
      exact congrArg (fun entries => Outcome.failure error (Globals.mk entries)) hrest

/-- If entries can be refreshed, so can the first of them. -/
theorem of_refreshFrom_append_eq_success {refreshed : Globals}
    (h : (refreshFrom resolver done (first ++ second)).run = .success () refreshed) :
    ∃ middle, (refreshFrom resolver done first).run = .success () middle ∧
      (refreshFrom resolver middle.entries second).run = .success () refreshed := by
  rw [refreshFrom_append] at h
  generalize (refreshFrom resolver done first).run = reached at h ⊢
  obtain ⟨result, state⟩ := reached
  cases result with
  | ok value => exact ⟨state, rfl, h⟩
  | error error =>
    injection h with hresult hstate
    cases hresult

/-- If entries can be refreshed, the first is, and then the others. -/
theorem of_refreshFrom_cons_eq_success {refreshed : Globals}
    (h : (refreshFrom resolver done (entry :: rest)).run = .success () refreshed) :
    ∃ entry', RefreshesTo resolver done entry entry' ∧
      (refreshFrom resolver (done ++ [entry']) rest).run = .success () refreshed := by
  rcases refreshesTo_or_fails resolver done entry with ⟨entry', hentry⟩ | ⟨error, hentry⟩
  · rw [refreshFrom_cons_of_refreshesTo hentry] at h
    exact ⟨entry', hentry, h⟩
  · rw [refreshFrom_cons_of_fails hentry] at h
    injection h with hresult hstate
    cases hresult

/-- Those that have been refreshed before stay, and no entry is lost. -/
theorem eq_append_of_refreshFrom {refreshed : Globals}
    (h : (refreshFrom resolver done entries).run = .success () refreshed) :
    ∃ own, refreshed.entries = done ++ own ∧ own.length = entries.length := by
  induction entries generalizing done with
  | nil =>
    injection h with hresult hstate
    rw [← hstate]
    exact ⟨[], (List.append_nil done).symm, rfl⟩
  | cons entry rest ih =>
    obtain ⟨entry', -, hrest⟩ := of_refreshFrom_cons_eq_success h
    obtain ⟨own, hown, hlength⟩ := ih hrest
    refine ⟨entry' :: own, ?_, congrArg Nat.succ hlength⟩
    rw [hown, List.append_assoc, List.singleton_append]

/-- **The first entries are refreshed** as they are where there are no others. -/
theorem refreshFrom_take {refreshed : Globals}
    (h : (refreshFrom resolver [] entries).run = .success () refreshed) (count : Nat) :
    (refreshFrom resolver [] (entries.take count)).run =
      .success () ⟨refreshed.entries.take count⟩ := by
  rw [← List.take_append_drop count entries] at h
  obtain ⟨middle, hmiddle, hrest⟩ := of_refreshFrom_append_eq_success h
  obtain ⟨first, hfirst, hfirstLength⟩ := eq_append_of_refreshFrom hmiddle
  obtain ⟨own, hown, hlength⟩ := eq_append_of_refreshFrom hrest
  have hcount : middle.entries.length = min count entries.length := by
    rw [hfirst, List.nil_append, hfirstLength, List.length_take]
  have hrestLength : own.length = entries.length - count := hlength.trans List.length_drop
  rw [hmiddle, hown, take_append_eq_left hcount hrestLength]

/-! ## Defining -/

variable {name data : Text} {policy : ResolvePolicy} {index : Nat} {globals : Globals}

/-- A definition puts a container in its place, or it fails and leaves the table as it is. -/
theorem define_spec {m : Type → Type} [Monad m] [LawfulMonad m] (resolver : Resolver m)
    (name data : Text) (policy : ResolvePolicy) (index : Nat) (globals : Globals) :
    SatisfiesM
      (fun outcome : Outcome Globals Unit =>
        (∀ error, outcome.result = .error error → outcome.state = globals) ∧
        (outcome.result = .ok () → ∃ text, outcome.state =
          globals.place (globals.position? name) (.holding name data policy index text)))
      (globals.define resolver name data policy index) := by
  rw [define]
  refine SatisfiesM.trivial.bind fun result _ => ?_
  cases result with
  | error error => exact .pure ⟨fun _ _ => rfl, fun h => nomatch h⟩
  | ok visible =>
    dsimp only
    rw [Directive.container_eq, bind_assoc]
    refine SatisfiesM.trivial.bind fun result _ => ?_
    cases result with
    | error error =>
      rw [pure_bind]
      exact .pure ⟨fun _ _ => rfl, fun h => nomatch h⟩
    | ok text =>
      rw [pure_bind]
      exact .pure ⟨fun error h => (nomatch h), fun _ => ⟨text, rfl⟩⟩

/-- **The place of a name:** that of the first entry that has it, or the end of the table. -/
def placeOf (globals : Globals) (name : Text) : Nat :=
  globals.entries.findIdx (·.name = name)

/-- What is before the place of a name is what a definition of it may see. -/
theorem position?_getD (globals : Globals) (name : Text) :
    (globals.position? name).getD globals.size = globals.placeOf name :=
  List.findIdx_eq_getD_findIdx?.symm

/-- There is no place after the end. -/
theorem placeOf_le (globals : Globals) (name : Text) : globals.placeOf name ≤ globals.size :=
  List.findIdx_le_length

/-- A name has its place among the first entries if it is one of theirs, and then this is its place
in a table of these entries. -/
theorem placeOf_take (globals : Globals) (name : Text) (count : Nat) :
    placeOf ⟨globals.entries.take count⟩ name = min count (globals.placeOf name) :=
  List.findIdx_take

/-- A name of an entry has its place before the end. -/
theorem placeOf_lt_iff : globals.placeOf name < globals.size ↔
    name ∈ globals.entries.map (·.name) := by
  rw [placeOf, size, List.findIdx_lt_length, List.mem_map]
  exact exists_congr fun entry => and_congr_right fun _ => decide_eq_true_iff

/-- There is such an entry then. -/
theorem exists_eq_append_of_placeOf_lt (h : globals.placeOf name < globals.size) :
    ∃ old, old.name = name ∧ globals.entries =
      globals.entries.take (globals.placeOf name) ++
        old :: globals.entries.drop (globals.placeOf name + 1) := by
  have hlt : globals.placeOf name < globals.entries.length := h
  have hfound := List.findIdx_getElem (w := hlt)
  refine ⟨globals.entries[globals.placeOf name], of_decide_eq_true hfound, ?_⟩
  rw [List.getElem_cons_drop, List.take_append_drop]

/-- **What is put in the place of a name** has the same entries before and after it. -/
theorem place_eq (globals : Globals) (name : Text) (entry : Directive) :
    globals.place (globals.position? name) entry =
      ⟨globals.entries.take (globals.placeOf name) ++
        entry :: globals.entries.drop (globals.placeOf name + 1)⟩ := by
  rw [← position?_getD]
  cases hposition : globals.position? name with
  | some position =>
    obtain ⟨hlt, -⟩ := List.findIdx?_eq_some_iff_findIdx_eq.1 hposition
    rw [place, List.set_eq_take_append_cons_drop, if_pos hlt]
    rfl
  | none =>
    rw [place, Option.getD_none, size, List.take_length,
      List.drop_eq_nil_of_le (Nat.le_succ _)]

/-- What a definition builds where the entries before it are `before`. -/
def entryAfter (resolver : Resolver Id) (before : List Directive) (name data : Text)
    (policy : ResolvePolicy) (index : Nat) : Except ScriptError Directive :=
  match (snapshotFrom resolver [] before).run with
  | .ok visible => (Directive.container resolver visible name data policy index).run
  | .error error => .error error

/-- It is a container with what its data resolve to where these can be seen. -/
theorem of_entryAfter_eq_ok {before : List Directive}
    (h : entryAfter resolver before name data policy index = .ok entry) :
    ∃ visible text, (snapshotFrom resolver [] before).run = .ok visible ∧
      (resolver.resolve ⟨[], visible⟩ data).run = .ok text ∧
      entry = .holding name data policy index text := by
  rw [entryAfter] at h
  split at h
  · rename_i visible hvisible
    obtain ⟨text, htext, rfl⟩ := Directive.of_container_eq_ok h
    exact ⟨visible, text, hvisible, htext, rfl⟩
  · cases h

/-- **A definition** puts what it builds after the entries before its place there, if it can build
it. -/
theorem define_eq (resolver : Resolver Id) (globals : Globals) (name data : Text)
    (policy : ResolvePolicy) (index : Nat) :
    (globals.define resolver name data policy index).run =
      match entryAfter resolver (globals.entries.take (globals.placeOf name)) name data policy
        index with
      | .ok entry => .success () (globals.place (globals.position? name) entry)
      | .error error => .failure error globals := by
  rw [define, Id.run_bind, snapshotPrefix, position?_getD, entryAfter]
  cases (snapshotFrom resolver [] (globals.entries.take (globals.placeOf name))).run with
  | error error => rfl
  | ok visible =>
    dsimp only
    rw [Id.run_bind]
    cases (Directive.container resolver visible name data policy index).run <;> rfl

end Globals

end MapScript
