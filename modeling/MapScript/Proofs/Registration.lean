/-
The table of functions from the record of the registrations.

A function is registered under the normal form of a name, and it is looked up under the normal form
of a name. So the table is built by insertions of functions under normal forms, and what is known of
such tables applies: the names are in the order of their first registration, and under each of them
the function that was registered last is found (`entries_afterRegistrations`).

A name of the table is looked up under its own normal form again. That it is found at all rests on
the fact that a normal form is its own normal form.
-/
import MapScript.Function
import MapScript.Proofs.InsertionOrder
import MapScript.Proofs.LowerCase

set_option autoImplicit false

namespace MapScript.Registry

variable {m : Type → Type}

/-- **The table after registrations,** the first of them in the empty one. -/
def afterRegistrations (registrations : List (Text × Function m)) : Registry m :=
  registrations.foldl (fun registry entry => registry.register entry.1 entry.2) .empty

/-- An entry with the normal form of its name. -/
def normalEntry (entry : Text × Function m) : Text × Function m :=
  (normalizeName entry.1, entry.2)

/-- A function is inserted under a name. -/
theorem insertEntry_eq_upsert (name : Text) (function : Function m)
    (entries : List (Text × Function m)) :
    insertEntry name function entries = upsert Prod.fst (name, function) entries := by
  induction entries with
  | nil => rfl
  | cons first rest ih =>
    rw [insertEntry, upsert]
    by_cases hname : first.1 = name
    · rw [if_pos hname, if_pos hname, hname]
    · rw [if_neg hname, if_neg hname, ih]

/-- **The table is built by insertions** under normal forms. -/
theorem entries_afterRegistrations (registrations : List (Text × Function m)) :
    (afterRegistrations registrations).entries =
      upsertAll Prod.fst (registrations.map normalEntry) := by
  induction registrations using List.reverseRecOn with
  | nil => rfl
  | append_singleton registrations entry ih =>
    rw [List.map_append, List.map_singleton, upsertAll_concat, ← ih, normalEntry,
      ← insertEntry_eq_upsert, afterRegistrations, List.foldl_append]
    rfl

/-- Its names are the normal forms, each where it was registered first. -/
theorem names_afterRegistrations (registrations : List (Text × Function m)) :
    (afterRegistrations registrations).names =
      (registrations.map fun entry => normalizeName entry.1).eraseDups := by
  rw [names, entries_afterRegistrations, keys_upsertAll, List.map_map]
  rfl

/-- A search goes through the names as they were given if it compares normal forms. -/
theorem findRev?_map_normalEntry (registrations : List (Text × Function m)) (name : Text) :
    (registrations.map normalEntry).findRev? (·.1 = name) =
      (registrations.findRev? fun entry => normalizeName entry.1 = name).map normalEntry := by
  simp only [List.findRev?_eq_findRev?TR, List.findRev?TR, ← List.map_reverse, List.find?_map]
  rfl

/-- A text is looked up under its normal form, and the last registration under it counts. -/
theorem get?_afterRegistrations (registrations : List (Text × Function m)) (text : Text) :
    (afterRegistrations registrations).get? text =
      (registrations.findRev? fun entry =>
        normalizeName entry.1 = normalizeName text).map (·.2) := by
  rw [get?, entries_afterRegistrations, find?_upsertAll, findRev?_map_normalEntry, Option.map_map]
  rfl

/-- What is listed has been registered. -/
theorem exists_findRev?_of_mem_names {registrations : List (Text × Function m)} {name : Text}
    (h : name ∈ (afterRegistrations registrations).names) :
    ∃ entry, registrations.findRev? (fun entry => normalizeName entry.1 = name) = some entry := by
  rw [names_afterRegistrations, List.mem_eraseDups, List.mem_map] at h
  obtain ⟨entry, hentry, hname⟩ := h
  rw [List.findRev?_eq_findRev?TR, List.findRev?TR, ← Option.isSome_iff_exists, List.find?_isSome]
  exact ⟨entry, List.mem_reverse.2 hentry, decide_eq_true hname⟩

/-- **The table of functions keeps its names in order and finds what was registered last.**

* The names are the normal forms of those that have been registered, in the order of their first
  registration. No two of them are equal, and none has white space.
* For every text the function is found that was registered last under a name with the same normal
  form, and none if there is no such name.
* So under each name that is listed a function is found, since a normal form is its own normal
  form. -/
theorem registrations_listed_and_found (registrations : List (Text × Function m)) :
    (afterRegistrations registrations).names =
        (registrations.map fun entry => normalizeName entry.1).eraseDups ∧
      (afterRegistrations registrations).names.Nodup ∧
      (∀ name ∈ (afterRegistrations registrations).names, ∀ c ∈ name, Text.isBlank c = false) ∧
      (∀ text, (afterRegistrations registrations).get? text =
        (registrations.findRev? fun entry =>
          normalizeName entry.1 = normalizeName text).map (·.2)) ∧
      (∀ text, normalizeName (normalizeName text) = normalizeName text) ∧
      ∀ name ∈ (afterRegistrations registrations).names,
        normalizeName name = name ∧ ∃ function,
          (afterRegistrations registrations).get? name = some function := by
  have hnormal : ∀ name ∈ (afterRegistrations registrations).names,
      ∃ text, name = normalizeName text := by
    intro name hname
    rw [names_afterRegistrations, List.mem_eraseDups, List.mem_map] at hname
    obtain ⟨entry, -, rfl⟩ := hname
    exact ⟨entry.1, rfl⟩
  refine ⟨names_afterRegistrations registrations, ?_, fun name hname c hc => ?_,
    get?_afterRegistrations registrations, normalizeName_normalizeName, fun name hname => ?_⟩
  · rw [names, entries_afterRegistrations]
    exact nodup_keys_upsertAll _ _
  · obtain ⟨text, rfl⟩ := hnormal name hname
    exact isBlank_of_mem_normalizeName hc
  · have hsame : normalizeName name = name := by
      obtain ⟨text, rfl⟩ := hnormal name hname
      exact normalizeName_normalizeName text
    obtain ⟨entry, hentry⟩ := exists_findRev?_of_mem_names hname
    refine ⟨hsame, entry.2, ?_⟩
    rw [get?_afterRegistrations, hsame, hentry]
    rfl

/-- A function that gives a text, whatever its arguments are. -/
def giving (text : Text) : Function Id := fun _ => pure (.ok text)

/-- What the function of a name gives for no arguments. -/
def given (registry : Registry Id) (name : Text) : Option Text :=
  (registry.get? name).bind fun function => (function ⟨name, []⟩).run.toOption

/-- Names that are the same in normal form: in capitals, with blanks, and with the final form of a
letter; and one that has two characters in lower case. -/
def sameNames : List (Text × Function Id) :=
  [("ΟΔΟΣ".toList, giving ['1']), ("İ".toList, giving ['2']), (" ο Δος".toList, giving ['3'])]

/-- Two names are listed, and under the first one the function from the last registration is
found, however it is written. -/
theorem registrations_listed_and_found_sigma :
    (afterRegistrations sameNames).names = ["οδος".toList, ['i', '\u0307']] ∧
      given (afterRegistrations sameNames) "Οδός".toList = none ∧
      given (afterRegistrations sameNames) "Ο ΔΟΣ".toList = some ['3'] ∧
      given (afterRegistrations sameNames) ['i', '\u0307'] = some ['2'] ∧
      ∃ function, (afterRegistrations sameNames).get? "οδος".toList = some function := by
  obtain ⟨hnames, -, -, hget, -, hfound⟩ := registrations_listed_and_found sameNames
  have hlist : (afterRegistrations sameNames).names = ["οδος".toList, ['i', '\u0307']] := by
    rw [hnames]
    decide +kernel
  have hlisted : "οδος".toList ∈ (afterRegistrations sameNames).names := by
    rw [hlist]
    exact List.mem_cons_self
  refine ⟨hlist, ?_, ?_, ?_, (hfound _ hlisted).2⟩
  · rw [given, hget]
    decide +kernel
  · rw [given, hget]
    decide +kernel
  · rw [given, hget]
    decide +kernel

end MapScript.Registry
