/-
Tables that keep their entries in the order of the first insertion.

Functions and global variables are kept in tables with one entry for each name. What is inserted
under a name that is there already takes the place of the old entry, and everything else goes to
the end. Both tables are lists, and for both the insertion is the same function of the key of an
entry (`upsert`).

A list that has been built by insertions alone is known from the record of them (`upsertAll`). Its
keys are those of the record, each where it comes up first (`keys_upsertAll`), and the entry that is
found under a key is the last one of the record that has it (`find?_upsertAll`). Each of the two is
an induction on the record from its end, with one lemma on a single insertion as its step.
-/
import Mathlib

set_option autoImplicit false

namespace MapScript

variable {α κ : Type} [DecidableEq κ]

/-! ## One insertion -/

/-- **Puts an entry in the place of the first one with its key,** or at the end. -/
def upsert (key : α → κ) (entry : α) : List α → List α
  | [] => [entry]
  | first :: rest =>
    if key first = key entry then entry :: rest else first :: upsert key entry rest

/-- A key that is there stays where it is, and a new one goes to the end. -/
theorem keys_upsert (key : α → κ) (entry : α) (entries : List α) :
    (upsert key entry entries).map key =
      if key entry ∈ entries.map key then entries.map key else entries.map key ++ [key entry] := by
  induction entries with
  | nil => simp [upsert]
  | cons first rest ih =>
    rw [upsert]
    by_cases hfirst : key first = key entry
    · simp [hfirst]
    · rw [if_neg hfirst, List.map_cons, ih]
      by_cases hrest : key entry ∈ rest.map key
      · simp [hrest]
      · rw [if_neg hrest, if_neg (by simpa [Ne.symm hfirst] using hrest)]
        rfl

/-- So no key comes up twice if none did before. -/
theorem nodup_keys_upsert {key : α → κ} {entries : List α} (h : (entries.map key).Nodup)
    (entry : α) : ((upsert key entry entries).map key).Nodup := by
  rw [keys_upsert]
  by_cases hold : key entry ∈ entries.map key
  · rwa [if_pos hold]
  · rw [if_neg hold]
    exact List.nodup_append_comm.1 (List.nodup_cons.2 ⟨hold, h⟩)

/-- **The entry is found under its key,** and under every other key what was found before. -/
theorem find?_upsert (key : α → κ) (entry : α) (entries : List α) (sought : κ) :
    (upsert key entry entries).find? (key · = sought) =
      if key entry = sought then some entry else entries.find? (key · = sought) := by
  induction entries with
  | nil => by_cases hsought : key entry = sought <;> simp [upsert, hsought]
  | cons first rest ih =>
    rw [upsert]
    by_cases hfirst : key first = key entry
    · rw [if_pos hfirst, List.find?_cons, List.find?_cons, hfirst]
      by_cases hsought : key entry = sought <;> simp [hsought]
    · rw [if_neg hfirst, List.find?_cons, List.find?_cons, ih]
      by_cases hsought : key first = sought
      · -- the first entry has the key that is sought, so the new one has not
        simp [hsought, Ne.symm (hsought ▸ hfirst)]
      · simp [hsought]

/-! ## All insertions of a record -/

/-- **The entries after all insertions** of a record, the first one into an empty list. -/
def upsertAll (key : α → κ) (record : List α) : List α :=
  record.foldl (fun entries entry => upsert key entry entries) []

/-- The last insertion is one into what the others have left. -/
theorem upsertAll_concat (key : α → κ) (record : List α) (entry : α) :
    upsertAll key (record ++ [entry]) = upsert key entry (upsertAll key record) := by
  simp only [upsertAll, List.foldl_append, List.foldl_cons, List.foldl_nil]

omit [DecidableEq κ] in
/-- What is there already is left out when duplicates are. -/
theorem eraseDups_concat [BEq κ] [LawfulBEq κ] (keys : List κ) (last : κ) :
    (keys ++ [last]).eraseDups =
      if last ∈ keys then keys.eraseDups else keys.eraseDups ++ [last] := by
  rw [List.eraseDups_append, List.removeAll]
  by_cases hold : last ∈ keys
  · rw [if_pos hold, List.filter_cons_of_neg (by simp [hold]), List.filter_nil,
      List.eraseDups_nil, List.append_nil]
  · rw [if_neg hold, List.filter_cons_of_pos (by simp [hold])]
    rfl

/-- **The keys are in the order in which they have been inserted first.** -/
theorem keys_upsertAll [BEq κ] [LawfulBEq κ] (key : α → κ) (record : List α) :
    (upsertAll key record).map key = (record.map key).eraseDups := by
  induction record using List.reverseRecOn with
  | nil => rfl
  | append_singleton record entry ih =>
    rw [upsertAll_concat, keys_upsert, ih, List.map_append, List.map_singleton, eraseDups_concat]
    simp only [List.mem_eraseDups]

/-- **No key comes up twice.** -/
theorem nodup_keys_upsertAll (key : α → κ) (record : List α) :
    ((upsertAll key record).map key).Nodup := by
  induction record using List.reverseRecOn with
  | nil => exact List.nodup_nil
  | append_singleton record entry ih =>
    rw [upsertAll_concat]
    exact nodup_keys_upsert ih entry

/-- A search from the end begins with the last entry. -/
theorem findRev?_concat (p : α → Bool) (record : List α) (entry : α) :
    (record ++ [entry]).findRev? p = if p entry then some entry else record.findRev? p := by
  rw [List.findRev?_eq_findRev?TR, List.findRev?TR, List.findRev?TR, List.reverse_concat,
    List.find?_cons]
  cases p entry <;> rfl

/-- **Under each key the last entry is found** that has been inserted with it. -/
theorem find?_upsertAll (key : α → κ) (record : List α) (sought : κ) :
    (upsertAll key record).find? (key · = sought) = record.findRev? (key · = sought) := by
  induction record using List.reverseRecOn with
  | nil => rfl
  | append_singleton record entry ih =>
    rw [upsertAll_concat, find?_upsert, ih, findRev?_concat]
    simp only [decide_eq_true_eq]

end MapScript
