/-
A variable depends on the variables before it only.

The first entries of a table live on their own: reading them, refreshing them and defining one of
them again gives what it gives in the table that has no others (`snapshotFrom_take`,
`refreshFrom_take`, `define_take`). So two tables that agree on their first entries still agree on
them after any of these, whatever comes later in them, and a definition at the end of the first
entries builds the same entry in both, whatever stood in its place (`independent_of_later`).
-/
import MapScript.Proofs.Tables
import MapScript.Proofs.Traces

set_option autoImplicit false

namespace MapScript.Globals

variable {resolver : Resolver Id} {globals globals' : Globals} {count : Nat}
  {name data : Text} {policy : ResolvePolicy} {index : Nat}

/-! ## The first entries of a table -/

/-- The table of the first entries. -/
def first (count : Nat) (globals : Globals) : Globals := ⟨globals.entries.take count⟩

/-- A name is one of the first entries if its place is. -/
theorem mem_first_iff : name ∈ (globals.first count).entries.map (·.name) ↔
    globals.placeOf name < min count globals.size := by
  have hplace : (globals.first count).placeOf name = min count (globals.placeOf name) :=
    placeOf_take globals name count
  have hsize : (globals.first count).size = min count globals.size := List.length_take
  rw [← placeOf_lt_iff]
  omega

/-- Then its place is the same without the others. -/
theorem placeOf_first (h : name ∈ (globals.first count).entries.map (·.name)) :
    (globals.first count).placeOf name = globals.placeOf name := by
  have hlt : globals.placeOf name < count := (mem_first_iff.1 h).trans_le (Nat.min_le_left ..)
  exact (placeOf_take globals name count).trans (Nat.min_eq_right hlt.le)

/-- To put something in the place of a name of the first entries is to do so there. -/
theorem place_first (h : name ∈ (globals.first count).entries.map (·.name))
    (entry : Directive) :
    (globals.first count).place ((globals.first count).position? name) entry =
      (globals.place (globals.position? name) entry).first count := by
  have hlt := mem_first_iff.1 h
  -- the place is not the end of either table, so that an entry is replaced in both
  have hlater : globals.placeOf name < globals.size := hlt.trans_le (Nat.min_le_right ..)
  have hlater' : globals.placeOf name < (globals.first count).entries.length :=
    hlt.trans_eq List.length_take.symm
  have hset : ∀ {entries : List Directive} {i : Nat}, i < entries.length →
      entries.take i ++ entry :: entries.drop (i + 1) = entries.set i entry := by
    intro entries i hi
    rw [List.set_eq_take_append_cons_drop, if_pos hi]
  rw [place_eq, place_eq, placeOf_first h, hset hlater, hset hlater', first, first, List.take_set]

/-- **A name of the first entries is defined** as it is where there are no others. -/
theorem define_take (h : name ∈ (globals.first count).entries.map (·.name))
    (resolver : Resolver Id) (data : Text) (policy : ResolvePolicy) (index : Nat) :
    ((globals.first count).define resolver name data policy index).run =
      (globals.define resolver name data policy index).run.mapState (first count) := by
  have hlt : globals.placeOf name < count := (mem_first_iff.1 h).trans_le (Nat.min_le_left ..)
  have hbefore : (globals.first count).entries.take (globals.placeOf name) =
      globals.entries.take (globals.placeOf name) := by
    rw [first, List.take_take, Nat.min_eq_left hlt.le]
  rw [define_eq, define_eq, placeOf_first h, hbefore]
  cases entryAfter resolver (globals.entries.take (globals.placeOf name)) name data policy
      index with
  | ok entry => exact congrArg (Outcome.success ()) (place_first h entry)
  | error error => rfl

/-- **The first entries stay what they are** if a name is defined that is none of theirs. -/
theorem take_prefix_define (h : name ∉ (globals.first count).entries.map (·.name)) :
    globals.entries.take count <+:
      (globals.define resolver name data policy index).run.state.entries := by
  rw [define_eq]
  cases entryAfter resolver (globals.entries.take (globals.placeOf name)) name data policy
      index with
  | error error => exact List.take_prefix ..
  | ok entry =>
    change _ <+: (globals.place (globals.position? name) entry).entries
    rw [place_eq, List.take_eq_take_min]
    -- nothing before the place is touched, and the first entries are before it
    have hbefore : globals.entries.take (min count globals.size) <+:
        globals.entries.take (globals.placeOf name) :=
      List.take_prefix_take_left (Nat.le_of_not_lt (mt mem_first_iff.2 h))
    exact hbefore.trans (List.prefix_append _ _)

/-- A definition succeeds where it can build its entry. -/
theorem define_result : (globals.define resolver name data policy index).run.result =
    (entryAfter resolver (globals.entries.take (globals.placeOf name)) name data policy
      index).map fun _ => () := by
  rw [define_eq]
  cases entryAfter resolver (globals.entries.take (globals.placeOf name)) name data policy
      index <;> rfl

/-- If it succeeds, it has built one. -/
theorem exists_entry_of_define
    (h : (globals.define resolver name data policy index).run.result = .ok ()) :
    ∃ entry, entryAfter resolver (globals.entries.take (globals.placeOf name)) name data policy
      index = .ok entry := by
  rw [define_result] at h
  cases hentry : entryAfter resolver (globals.entries.take (globals.placeOf name)) name data
      policy index with
  | ok entry => exact ⟨entry, rfl⟩
  | error error =>
    rw [hentry] at h
    cases h

/-- A definition adds what it has built to the entries before its place. -/
theorem take_define {entry : Directive}
    (h : entryAfter resolver (globals.entries.take (globals.placeOf name)) name data policy
      index = .ok entry) :
    (globals.define resolver name data policy index).run.state.entries.take
        (globals.placeOf name + 1) =
      globals.entries.take (globals.placeOf name) ++ [entry] := by
  have hlength : (globals.entries.take (globals.placeOf name)).length = globals.placeOf name :=
    List.length_take.trans (Nat.min_eq_left (placeOf_le globals name))
  rw [define_eq, h]
  change (globals.place (globals.position? name) entry).entries.take _ = _
  rw [place_eq, List.append_cons]
  exact List.take_left' (by rw [List.length_append, hlength, List.length_singleton])

/-! ## Two tables -/

/-- **Two tables with the same first entries.** -/
def AgreeOn (count : Nat) (globals globals' : Globals) : Prop :=
  globals.entries.take count = globals'.entries.take count

namespace AgreeOn

variable (h : AgreeOn count globals globals')
include h

/-- They have one table of first entries. -/
theorem first_eq : globals.first count = globals'.first count := congrArg Globals.mk h

/-- Their first variables are read alike. -/
theorem snapshot {vars vars' : List Variable} (hvars : (globals.snapshot resolver).run = .ok vars)
    (hvars' : (globals'.snapshot resolver).run = .ok vars') :
    vars.take count = vars'.take count := by
  have htake := snapshotFrom_take hvars count
  rw [h, snapshotFrom_take hvars' count] at htake
  exact (Except.ok.inj htake).symm

/-- Their first entries are refreshed alike. -/
theorem refreshAll {refreshed refreshed' : Globals}
    (hrefresh : (globals.refreshAll resolver).run = .success () refreshed)
    (hrefresh' : (globals'.refreshAll resolver).run = .success () refreshed') :
    AgreeOn count refreshed refreshed' := by
  have htake := refreshFrom_take hrefresh count
  rw [h, refreshFrom_take hrefresh' count] at htake
  injection htake with hresult hstate
  exact (congrArg Globals.entries hstate).symm

/-- A name of the first entries is defined alike. -/
theorem define_of_mem (hname : name ∈ (globals.first count).entries.map (·.name)) :
    (globals.define resolver name data policy index).run.result =
        (globals'.define resolver name data policy index).run.result ∧
      AgreeOn count (globals.define resolver name data policy index).run.state
        (globals'.define resolver name data policy index).run.state := by
  have hname' : name ∈ (globals'.first count).entries.map (·.name) := h.first_eq ▸ hname
  have hdefine := define_take hname resolver data policy index
  rw [h.first_eq, define_take hname'] at hdefine
  obtain ⟨hresult, hstate⟩ := Outcome.mapState_inj.1 hdefine
  exact ⟨hresult.symm, (congrArg Globals.entries hstate).symm⟩

/-- So is a name whose place is right after them: what is built there has been built from the first
entries. -/
theorem define_of_placeOf_eq (hplace : globals.placeOf name = count)
    (hplace' : globals'.placeOf name = count) :
    (globals.define resolver name data policy index).run.result =
        (globals'.define resolver name data policy index).run.result ∧
      ((globals.define resolver name data policy index).run.result = .ok () →
        AgreeOn (count + 1) (globals.define resolver name data policy index).run.state
          (globals'.define resolver name data policy index).run.state) := by
  have hbefore : globals.entries.take (globals.placeOf name) =
      globals'.entries.take (globals'.placeOf name) := by
    rw [hplace, hplace']
    exact h
  refine ⟨by rw [define_result, define_result, hbefore], fun hok => ?_⟩
  obtain ⟨entry, hentry⟩ := exists_entry_of_define hok
  -- the same entry goes into both tables
  have htake := take_define hentry
  have htake' := take_define (hbefore ▸ hentry)
  rw [hplace] at htake
  rw [hplace'] at htake'
  rw [AgreeOn, htake, htake', h]

end AgreeOn

/-- **What happens to the first entries does not depend on the entries after them.** In two tables
that agree on their first entries,

* the first variables that are read are the same, and the first entries after a refresh are, if
  both tables can be read and refreshed;
* a definition of a name of the first entries succeeds or fails alike, and leaves the first entries
  alike;
* a definition of any other name leaves the first entries as they are;
* a definition right after the first entries succeeds or fails alike, whatever stood in its place
  and after it, and leaves tables that agree on the new entry too. -/
theorem AgreeOn.independent_of_later (h : AgreeOn count globals globals')
    (resolver : Resolver Id) :
    (∀ vars vars', (globals.snapshot resolver).run = .ok vars →
      (globals'.snapshot resolver).run = .ok vars' → vars.take count = vars'.take count) ∧
    (∀ refreshed refreshed', (globals.refreshAll resolver).run = .success () refreshed →
      (globals'.refreshAll resolver).run = .success () refreshed' →
      AgreeOn count refreshed refreshed') ∧
    ∀ (name data : Text) (policy : ResolvePolicy) (index : Nat)
      (defined defined' : Outcome Globals Unit),
      (globals.define resolver name data policy index).run = defined →
      (globals'.define resolver name data policy index).run = defined' →
      (name ∈ (globals.entries.take count).map (·.name) →
        defined.result = defined'.result ∧ AgreeOn count defined.state defined'.state) ∧
      (name ∉ (globals.entries.take count).map (·.name) →
        globals.entries.take count <+: defined.state.entries ∧
          globals'.entries.take count <+: defined'.state.entries) ∧
      (globals.placeOf name = count → globals'.placeOf name = count →
        defined.result = defined'.result ∧
          (defined.result = .ok () → AgreeOn (count + 1) defined.state defined'.state)) := by
  refine ⟨fun _ _ => h.snapshot, fun _ _ => h.refreshAll, ?_⟩
  rintro name data policy index _ _ rfl rfl
  refine ⟨h.define_of_mem, fun hname => ⟨take_prefix_define hname, ?_⟩, h.define_of_placeOf_eq⟩
  exact take_prefix_define (h.first_eq ▸ hname)

/-- A variable and another one that is computed on every read. -/
def pair (data : Text) : Globals :=
  ⟨[.holding ['a'] ['1'] .onceAtCreation 1 ['1'], .holding ['b'] data .onEveryRead 2 data]⟩

/-- Two tables that differ in their second variable. Their first variables are read alike, and stay
alike when the first one is defined again with the name of the second as its data. When the second
is defined again with its own name among its data, what stood in its place does not show. -/
theorem independent_of_later_pair :
    AgreeOn 1 (pair ['5']) (pair ['a', 'a']) ∧ ¬ AgreeOn 2 (pair ['5']) (pair ['a', 'a']) ∧
    (∃ vars vars', ((pair ['5']).snapshot .withoutFunctions).run = .ok vars ∧
      ((pair ['a', 'a']).snapshot .withoutFunctions).run = .ok vars' ∧ vars ≠ vars' ∧
      vars.take 1 = vars'.take 1) ∧
    AgreeOn 1
      ((pair ['5']).define .withoutFunctions ['a'] ['b'] .onceAtCreation 3).run.state
      ((pair ['a', 'a']).define .withoutFunctions ['a'] ['b'] .onceAtCreation 3).run.state ∧
    AgreeOn 2
      ((pair ['5']).define .withoutFunctions ['b'] ['b', 'a'] .onceAtCreation 3).run.state
      ((pair ['a', 'a']).define .withoutFunctions ['b'] ['b', 'a'] .onceAtCreation
        3).run.state := by
  have hagree : AgreeOn 1 (pair ['5']) (pair ['a', 'a']) := rfl
  obtain ⟨hsnapshot, -, hdefine⟩ := hagree.independent_of_later .withoutFunctions
  refine ⟨hagree, ?_, ⟨_, _, rfl, rfl, ?_, hsnapshot _ _ rfl rfl⟩, ?_, ?_⟩
  · exact fun h => absurd (congrArg (List.map Directive.line) h) (by decide)
  · exact fun h => absurd (congrArg (List.map Variable.data) h) (by decide)
  · exact ((hdefine ['a'] ['b'] .onceAtCreation 3 _ _ rfl rfl).1 (by decide)).2
  · exact ((hdefine ['b'] ['b', 'a'] .onceAtCreation 3 _ _ rfl rfl).2.2 rfl rfl).2 rfl

end MapScript.Globals
