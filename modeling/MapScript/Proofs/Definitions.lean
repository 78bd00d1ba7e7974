/-
The table of global variables from the record of its definitions.

A table is changed by definitions, refreshes and clearing, and any of these may fail. Of all that has
happened only the definitions that have succeeded since the table was cleared last are visible in
it, apart from the values: its entries hold these definitions, each name the last one of it, in the
order in which the names were defined first (`Holds`). A definition that succeeds inserts one, a
refresh makes new values for what is there, and a failure of either keeps what the entries hold,
the failure of a definition the values as well.

Nothing is assumed of the functions. They may draw random numbers, and they may be others for each
operation; which definitions succeed then depends on the draws, and the record is what has happened.
-/
import MapScript.Proofs.InsertionOrder
import MapScript.Proofs.Redefinition

set_option autoImplicit false

namespace MapScript.Globals

/-! ## Definitions and the entries that hold them -/

/-- **What a definition says** of a variable. -/
structure Definition where
  name : Text
  data : Text
  policy : ResolvePolicy
  index : Nat
deriving DecidableEq

/-- The container of a definition, with its value. -/
def Definition.holding (definition : Definition) (text : Text) : Directive :=
  .holding definition.name definition.data definition.policy definition.index text

/-- **Entries that hold definitions:** one container for each, with a value. -/
def Holds (definitions : List Definition) (entries : List Directive) : Prop :=
  List.Forall₂ (fun definition entry => ∃ text, entry = definition.holding text) definitions entries

variable {definitions before : List Definition} {entries done : List Directive}
  {globals : Globals}

/-- The names of the entries are those of the definitions. -/
theorem Holds.names_eq (h : Holds definitions entries) :
    entries.map (·.name) = definitions.map (·.name) := by
  induction h with
  | nil => rfl
  | cons hentry _ ih =>
    obtain ⟨text, rfl⟩ := hentry
    rw [List.map_cons, List.map_cons, ih]
    rfl

/-- Under a name the entries have the container of the definition that is found. -/
theorem Holds.find? (h : Holds definitions entries) (name : Text) :
    match definitions.find? (·.name = name) with
    | some definition => ∃ text, entries.find? (·.name = name) = some (definition.holding text)
    | none => entries.find? (·.name = name) = none := by
  induction h with
  | nil => rfl
  | @cons definition entry _ _ hentry _ ih =>
    obtain ⟨text, rfl⟩ := hentry
    rw [List.find?_cons, List.find?_cons]
    have hname : (definition.holding text).name = definition.name := rfl
    rw [hname]
    by_cases hfound : definition.name = name
    · simp only [hfound, decide_true]
      exact ⟨text, rfl⟩
    · simpa only [hfound, decide_false] using ih

/-- A container that is inserted holds the definition that is inserted. -/
theorem Holds.upsert (h : Holds definitions entries) (definition : Definition) (text : Text) :
    Holds (upsert Definition.name definition definitions)
      (upsert Directive.name (definition.holding text) entries) := by
  induction h with
  | nil => exact .cons ⟨text, rfl⟩ .nil
  | @cons first entry _ _ hentry hrest ih =>
    obtain ⟨old, rfl⟩ := hentry
    have hname : (first.holding old).name = first.name := rfl
    have hnew : (definition.holding text).name = definition.name := rfl
    rw [MapScript.upsert, MapScript.upsert, hname, hnew]
    by_cases hsame : first.name = definition.name
    · rw [if_pos hsame, if_pos hsame]
      exact .cons ⟨text, rfl⟩ hrest
    · rw [if_neg hsame, if_neg hsame]
      exact .cons ⟨old, rfl⟩ ih

/-! ## Definitions that are made -/

/-- The place of a name is where an entry of it is inserted. -/
theorem entries_place (globals : Globals) (entry : Directive) :
    (globals.place (globals.position? entry.name) entry).entries =
      upsert Directive.name entry globals.entries := by
  rw [place_eq, placeOf]
  induction globals.entries with
  | nil => rfl
  | cons first rest ih =>
    rw [List.findIdx_cons, upsert]
    by_cases hfirst : first.name = entry.name
    · simp [hfirst]
    · simpa [hfirst] using ih

/-- An entry that is inserted is the only one that is new. -/
theorem exists_getElem?_upsert (entries : List Directive) (entry : Directive) :
    ∃ i : Nat, (upsert Directive.name entry entries)[i]? = some entry ∧
      ∀ j : Nat, j ≠ i → (upsert Directive.name entry entries)[j]? = entries[j]? := by
  induction entries with
  | nil =>
    refine ⟨0, rfl, fun j hj => ?_⟩
    obtain ⟨j, rfl⟩ := Nat.exists_eq_succ_of_ne_zero hj
    rfl
  | cons first rest ih =>
    rw [upsert]
    by_cases hfirst : first.name = entry.name
    · rw [if_pos hfirst]
      refine ⟨0, rfl, fun j hj => ?_⟩
      obtain ⟨j, rfl⟩ := Nat.exists_eq_succ_of_ne_zero hj
      rfl
    · rw [if_neg hfirst]
      obtain ⟨i, hentry, hothers⟩ := ih
      refine ⟨i + 1, hentry, fun j hj => ?_⟩
      cases j with
      | zero => rfl
      | succ j => exact hothers j (by omega)

/-- **What a definition does to a table.** If it fails, the table is what it was. If it succeeds, one
entry is the container of the definition, and all others are what they were, each in its place; under
the name this container is found, and under every other name what was found before. -/
def DefinesOrKeeps (globals : Globals) (definition : Definition) (outcome : Outcome Globals Unit) :
    Prop :=
  (∀ error, outcome.result = .error error → outcome.state = globals) ∧
    (outcome.result = .ok () → ∃ (text : Text) (i : Nat),
      outcome.state.entries[i]? = some (definition.holding text) ∧
      (∀ j : Nat, j ≠ i → outcome.state.entries[j]? = globals.entries[j]?) ∧
      ∀ name, outcome.state.get? name =
        if definition.name = name then some (definition.holding text) else globals.get? name)

variable {m : Type → Type} [Monad m] [LawfulMonad m]

/-- A definition inserts its container, or it fails and leaves the table as it is. -/
theorem define_inserts (resolver : Resolver m) (definition : Definition) (globals : Globals) :
    SatisfiesM
      (fun outcome : Outcome Globals Unit =>
        (∀ error, outcome.result = .error error → outcome.state = globals) ∧
        (outcome.result = .ok () → ∃ text, outcome.state.entries =
          upsert Directive.name (definition.holding text) globals.entries))
      (globals.define resolver definition.name definition.data definition.policy
        definition.index) := by
  refine (define_spec resolver definition.name definition.data definition.policy definition.index
    globals).imp fun h => ⟨h.1, fun hresult => ?_⟩
  obtain ⟨text, hstate⟩ := h.2 hresult
  refine ⟨text, ?_⟩
  rw [hstate]
  exact entries_place globals (definition.holding text)

/-- So it changes no other entry. -/
theorem define_definesOrKeeps (resolver : Resolver m) (definition : Definition)
    (globals : Globals) :
    SatisfiesM (globals.DefinesOrKeeps definition)
      (globals.define resolver definition.name definition.data definition.policy
        definition.index) := by
  refine (define_inserts resolver definition globals).imp fun h => ⟨h.1, fun hresult => ?_⟩
  obtain ⟨text, hentries⟩ := h.2 hresult
  obtain ⟨i, hentry, hothers⟩ := exists_getElem?_upsert globals.entries (definition.holding text)
  rw [← hentries] at hentry hothers
  refine ⟨text, i, hentry, hothers, fun name => ?_⟩
  rw [get?, hentries, find?_upsert]
  rfl

/-! ## Refreshes -/

/-- A refresh of a container leaves it a container of the same definition. -/
theorem refresh_holding (resolver : Resolver m) (visible : List Variable)
    (definition : Definition) (text : Text) :
    SatisfiesM
      (fun outcome : Outcome Directive Bool => ∃ now, outcome.state = definition.holding now)
      ((definition.holding text).refresh resolver visible) := by
  have hmaterialize : SatisfiesM
      (fun outcome : Outcome Directive Unit => ∃ now, outcome.state = definition.holding now)
      ((definition.holding text).materialize resolver visible) := by
    have hdata : (definition.holding text).internal.data = some definition.data := rfl
    rw [Directive.materialize, Directive.resolveData, hdata, bind_assoc]
    refine SatisfiesM.trivial.bind fun result _ => ?_
    cases result with
    | error error =>
      rw [pure_bind]
      exact .pure ⟨text, rfl⟩
    | ok now =>
      rw [pure_bind]
      exact .pure ⟨now, rfl⟩
  rw [Directive.refresh]
  split
  · exact hmaterialize.bind fun _ houtcome => .pure houtcome
  · exact .pure ⟨text, rfl⟩

/-- **A refresh of entries keeps what they hold,** whether it succeeds or fails. -/
theorem refreshFrom_holds (resolver : Resolver m) (hdone : Holds before done)
    (hentries : Holds definitions entries) :
    SatisfiesM
      (fun outcome : Outcome Globals Unit => Holds (before ++ definitions) outcome.state.entries)
      (refreshFrom resolver done entries) := by
  -- each entry goes from what is left to what is done, so both are general
  induction hentries generalizing before done with
  | nil =>
    rw [List.append_nil]
    exact .pure hdone
  | @cons definition entry definitions rest hentry hrest ih =>
    have hsplit : before ++ definition :: definitions = before ++ [definition] ++ definitions :=
      List.append_cons ..
    have hnow : ∀ {now : Directive}, (∃ text, now = definition.holding text) →
        Holds (before ++ [definition]) (done ++ [now]) := fun h =>
      List.rel_append hdone (.cons h .nil)
    have hkept : Holds (before ++ definition :: definitions) (done ++ entry :: rest) :=
      List.rel_append hdone (.cons hentry hrest)
    rw [refreshFrom]
    split
    · -- an entry with another policy is not computed anew
      rw [hsplit]
      exact ih (hnow hentry)
    · refine SatisfiesM.trivial.bind fun snapshot _ => ?_
      cases snapshot with
      | error error => exact .pure hkept
      | ok visible =>
        obtain ⟨text, rfl⟩ := hentry
        refine (refresh_holding resolver visible definition text).bind fun outcome houtcome => ?_
        obtain ⟨result, state⟩ := outcome
        cases result with
        | ok value =>
          rw [hsplit]
          exact ih (hnow houtcome)
        | error error => exact .pure (List.rel_append hdone (.cons houtcome hrest))

/-! ## Histories -/

/-- **An operation on a table,** which may fail. -/
inductive Operation (m : Type → Type) where
  | define (resolver : Resolver m) (definition : Definition)
  | refreshAll (resolver : Resolver m)
  | clear

/-- A table, and the definitions that have succeeded since it was cleared last. -/
structure Recorded where
  globals : Globals
  record : List Definition

/-- Makes an operation and records it. -/
def Recorded.apply (recorded : Recorded) : Operation m → m Recorded
  | .define resolver definition => do
    let outcome ← recorded.globals.define resolver definition.name definition.data
      definition.policy definition.index
    match outcome.result with
    | .ok _ => pure ⟨outcome.state, recorded.record ++ [definition]⟩
    | .error _ => pure ⟨outcome.state, recorded.record⟩
  | .refreshAll resolver => do
    let outcome ← recorded.globals.refreshAll resolver
    pure ⟨outcome.state, recorded.record⟩
  | .clear => pure ⟨.empty, []⟩

/-- **The table after operations** on the empty one. -/
def afterOperations (operations : List (Operation m)) : m Recorded :=
  operations.foldlM Recorded.apply ⟨.empty, []⟩

/-- The entries hold what is in the record. -/
def Recorded.Tells (recorded : Recorded) : Prop :=
  Holds (upsertAll Definition.name recorded.record) recorded.globals.entries

/-- An operation keeps the record true. -/
theorem Recorded.Tells.apply {recorded : Recorded} (h : recorded.Tells)
    (operation : Operation m) : SatisfiesM Recorded.Tells (recorded.apply operation) := by
  cases operation with
  | define resolver definition =>
    rw [Recorded.apply]
    refine (define_inserts resolver definition recorded.globals).bind fun outcome houtcome => ?_
    obtain ⟨hfailed, hdefined⟩ := houtcome
    obtain ⟨result, state⟩ := outcome
    cases result with
    | error error =>
      obtain rfl : state = recorded.globals := hfailed error rfl
      exact .pure h
    | ok value =>
      obtain ⟨text, hentries⟩ := hdefined rfl
      refine .pure ?_
      rw [Tells, upsertAll_concat]
      exact hentries ▸ Holds.upsert h definition text
  | refreshAll resolver =>
    rw [Recorded.apply]
    exact (refreshFrom_holds resolver .nil h).bind fun _ houtcome => .pure houtcome
  | clear => exact .pure .nil

/-- So the record is true after all operations. -/
theorem tells_afterOperations (operations : List (Operation m)) :
    SatisfiesM Recorded.Tells (afterOperations operations) :=
  List.satisfiesM_foldlM .nil fun _ h operation _ => h.apply operation

/-- **The table is a map in the order of insertion,** whatever has happened to it.

* The names of its entries are those of the record, in the order of their first definition since the
  table was cleared last, and no two of them are equal.
* Under a name the container of the last definition of the record is found, and nothing under a name
  that is not in the record.
* A definition that fails leaves the table as it is, and one that succeeds changes no other entry.
* A snapshot has one variable for each entry, with the names of the entries in their order. -/
theorem afterOperations_insertionOrdered (operations : List (Operation m)) :
    SatisfiesM
      (fun recorded : Recorded =>
        recorded.globals.entries.map (·.name) = (recorded.record.map (·.name)).eraseDups ∧
        (recorded.globals.entries.map (·.name)).Nodup ∧
        (∀ name, match recorded.record.findRev? (·.name = name) with
          | some definition => ∃ text, recorded.globals.get? name = some (definition.holding text)
          | none => recorded.globals.get? name = none) ∧
        (∀ (resolver : Resolver m) (definition : Definition),
          SatisfiesM (recorded.globals.DefinesOrKeeps definition)
            (recorded.globals.define resolver definition.name definition.data definition.policy
              definition.index)) ∧
        ∀ resolver : Resolver m,
          SatisfiesM
            (fun snapshot => ∀ vars, snapshot = .ok vars →
              vars.map (·.name) = recorded.globals.entries.map (·.name))
            (recorded.globals.snapshot resolver))
      (afterOperations operations) := by
  refine (tells_afterOperations operations).imp fun h => ?_
  rename_i recorded
  have hnames := h.names_eq
  refine ⟨?_, ?_, fun name => ?_, fun resolver definition => ?_, fun resolver => ?_⟩
  · rw [hnames, keys_upsertAll]
  · rw [hnames]
    exact nodup_keys_upsertAll _ _
  · rw [← find?_upsertAll]
    exact h.find? name
  · exact define_definesOrKeeps resolver definition recorded.globals
  · exact (snapshotFrom_reports resolver [] recorded.globals.entries).imp fun hsnapshot => hsnapshot.2

/-- A variable that is cleared, and two others. The second is computed from the first on refreshes;
the first is defined again, to no avail with a brace that is not closed and then with a number. -/
def definedAgain : List (Operation Id) :=
  [.define .withoutFunctions ⟨['z'], ['0'], .onceAtCreation, 1⟩, .clear,
    .define .withoutFunctions ⟨['a'], ['1'], .onceAtCreation, 2⟩,
    .define .withoutFunctions ⟨['b'], ['a'], .onEveryRefresh, 3⟩,
    .define .withoutFunctions ⟨['a'], ['\x7b'], .onceAtCreation, 4⟩,
    .define .withoutFunctions ⟨['a'], ['5'], .onEveryRead, 5⟩,
    .refreshAll .withoutFunctions]

/-- The two variables have kept their order, and the first is the one from its last definition that
has succeeded. -/
theorem afterOperations_insertionOrdered_definedAgain :
    (afterOperations definedAgain).run.record = [⟨['a'], ['1'], .onceAtCreation, 2⟩,
        ⟨['b'], ['a'], .onEveryRefresh, 3⟩, ⟨['a'], ['5'], .onEveryRead, 5⟩] ∧
      (afterOperations definedAgain).run.globals.entries.map (·.name) = [['a'], ['b']] ∧
      (∃ text, (afterOperations definedAgain).run.globals.get? ['a'] =
        some (Definition.holding ⟨['a'], ['5'], .onEveryRead, 5⟩ text)) ∧
      (afterOperations definedAgain).run.globals.get? ['z'] = none := by
  have hrecord : (afterOperations definedAgain).run.record =
      [⟨['a'], ['1'], .onceAtCreation, 2⟩, ⟨['b'], ['a'], .onEveryRefresh, 3⟩,
        ⟨['a'], ['5'], .onEveryRead, 5⟩] := by
    decide +kernel
  obtain ⟨hnames, -, hfound, -⟩ := SatisfiesM_Id_eq.1
    (afterOperations_insertionOrdered definedAgain)
  have hfirst := hfound ['a']
  have hcleared := hfound ['z']
  rw [Id.run] at hrecord
  rw [hrecord] at hnames hfirst hcleared
  exact ⟨hrecord, hnames, hfirst, hcleared⟩

end MapScript.Globals
