/-
A text in lower case stays as it is when it is lowered again.

The lower-case form of a character is the character itself, or a character that a table names, or
for one capital two characters. So nothing is lowered twice if no character that the tables name is
lowered by them again. The tables have runs of characters as their rows, and a run is four numbers;
that the partners of one run stay clear of another run is a statement about its ends and its step
(`misses`). All pairs of rows are compared once, in `lowerRuns_settled`, and the rest is about
characters of a run in general.

A capital sigma is the only character whose lower-case form depends on its neighbours. Both of its
forms are in lower case, and no other character is lowered to a capital sigma, so in a text that has
been lowered the neighbours no longer matter (`lowerAfter_of_isLower`).

The same comparison of rows shows that lowering makes no white space. So a name in normal form has
none, and is its own normal form (`normalizeName_normalizeName`).
-/
import MapScript.Proofs.Bytes
import MapScript.Variable
import Mathlib

set_option autoImplicit false

namespace MapScript

/-! ## Runs by their ends -/

namespace CaseRun

variable {run other : CaseRun} {range : CodeRange} {n : Nat}

/-- Whether the partners of a run are below or above the members of another one, or between them. -/
def misses (run other : CaseRun) : Bool :=
  Nat.blt (run.partner run.last) other.first || Nat.blt other.last (run.partner run.first) ||
    (run.step == 2 || run.first == run.last) && other.step == 2 &&
      (run.partner run.first + other.first) % 2 == 1

/-- Whether they are below or above the characters of a range. -/
def avoids (run : CaseRun) (range : CodeRange) : Bool :=
  Nat.blt (run.partner run.last) range.first || Nat.blt range.last (run.partner run.first)

/-- Whether they are code points of characters. -/
def inChars (run : CaseRun) : Bool :=
  decide (0 ≤ (run.first : Int) + run.shift) &&
    (Nat.blt (run.partner run.last) 0xD800 ||
      Nat.blt 0xDFFF (run.partner run.first) && Nat.blt (run.partner run.last) 0x110000)

/-- The members of a run. -/
theorem contains_iff : run.contains n = true ↔
    (run.first ≤ n ∧ n ≤ run.last) ∧ (n - run.first) % run.step = 0 := by
  simp only [contains, Bool.and_eq_true, decide_eq_true_eq, beq_iff_eq]

/-- The partner of a member is as far from the partner of the first one as the member from the
first one. -/
theorem partner_eq (hvalid : run.inChars = true) (h : run.first ≤ n) :
    run.partner n = run.partner run.first + (n - run.first) := by
  simp only [inChars, Bool.and_eq_true, decide_eq_true_eq] at hvalid
  obtain ⟨hfirst, -⟩ := hvalid
  simp only [partner]
  omega

/-- **A partner is not in a run that is missed.** -/
theorem not_contains_of_misses (h : run.misses other = true) (hvalid : run.inChars = true)
    (hn : run.contains n = true) : ¬ other.contains (run.partner n) = true := by
  simp only [misses, Bool.or_eq_true, Bool.and_eq_true, beq_iff_eq, Nat.blt_eq] at h
  obtain ⟨⟨hfirst, hlast⟩, hstep⟩ := contains_iff.1 hn
  have hpartner := partner_eq hvalid hfirst
  have hlastPartner := partner_eq hvalid (hfirst.trans hlast)
  rw [contains_iff]
  rintro ⟨⟨hlow, hhigh⟩, hother⟩
  rcases h with (hbelow | habove) | ⟨⟨hsteps, htwo⟩, hparity⟩
  · omega
  · omega
  · -- a distance in one run is even, and so is one in the other
    have heven : (n - run.first) % 2 = 0 := by
      rcases hsteps with hsteps | hsingle
      · rwa [hsteps] at hstep
      · omega
    rw [htwo] at hother
    omega

/-- A partner is not in a range that is avoided. -/
theorem not_contains_of_avoids (h : run.avoids range = true) (hvalid : run.inChars = true)
    (hn : run.contains n = true) : ¬ range.contains (run.partner n) = true := by
  simp only [avoids, Bool.or_eq_true, Nat.blt_eq] at h
  obtain ⟨⟨hfirst, hlast⟩, -⟩ := contains_iff.1 hn
  have hpartner := partner_eq hvalid hfirst
  have hlastPartner := partner_eq hvalid (hfirst.trans hlast)
  simp only [CodeRange.contains, Bool.and_eq_true, decide_eq_true_eq]
  rintro ⟨hlow, hhigh⟩
  rcases h with hbelow | habove
  · omega
  · omega

/-- A partner is a character, and has its own code point. -/
theorem toNat_partner (hvalid : run.inChars = true) (hn : run.contains n = true) :
    (Char.ofNat (run.partner n)).toNat = run.partner n := by
  obtain ⟨⟨hfirst, hlast⟩, -⟩ := contains_iff.1 hn
  have hpartner := partner_eq hvalid hfirst
  have hlastPartner := partner_eq hvalid (hfirst.trans hlast)
  have hchar : (run.partner n).isValidChar := by
    simp only [inChars, Bool.or_eq_true, Bool.and_eq_true, Nat.blt_eq] at hvalid
    rcases hvalid.2 with hbelow | ⟨habove, hend⟩
    · exact .inl (by omega)
    · exact .inr ⟨by omega, by omega⟩
  rw [Char.ofNat, dif_pos hchar]
  rfl

end CaseRun

namespace Text

/-! ## The table of capitals -/

/-- **No partner of a capital is a capital.** Nor is one the capital with two characters for its
lower-case form, or white space. -/
theorem lowerRuns_settled : ∀ run ∈ lowerRuns, run.inChars = true ∧
    (∀ other ∈ lowerRuns, run.misses other = true) ∧
    ∀ range ∈ ⟨0x130, 0x130⟩ :: blankRanges, run.avoids range = true := by
  have hall : lowerRuns.all (fun run => run.inChars && (lowerRuns.all run.misses &&
      (⟨0x130, 0x130⟩ :: blankRanges).all run.avoids)) = true := by
    decide +kernel
  simpa only [List.all_eq_true, Bool.and_eq_true] using hall

/-- The capital letters of ASCII are a run of the table. -/
theorem asciiRun_mem : ⟨0x41, 0x5A, 1, 32⟩ ∈ lowerRuns := by decide +kernel

variable {c d : Char}

/-- A capital letter of ASCII is in this run. -/
theorem asciiRun_contains (h : 65 ≤ c.toNat ∧ c.toNat ≤ 90) :
    (⟨0x41, 0x5A, 1, 32⟩ : CaseRun).contains c.toNat = true := by
  rw [CaseRun.contains_iff]
  exact ⟨h, Nat.mod_one _⟩

/-- **The lower-case form of a character** is the character, or two characters for one capital, or
the partner in a run of the table. -/
theorem lowerChar_cases (c : Char) :
    lowerChar c = [c] ∨ (c.toNat = 0x130 ∧ lowerChar c = ['i', '\u0307']) ∨
      ∃ run ∈ lowerRuns, run.contains c.toNat = true ∧
        lowerChar c = [Char.ofNat (run.partner c.toNat)] := by
  by_cases hascii : c.toNat < 128
  · rw [lowerChar, if_pos hascii]
    have hcode := toNat_toLower c
    by_cases hcapital : 'A' ≤ c ∧ c ≤ 'Z'
    · rw [if_pos hcapital] at hcode
      refine .inr (.inr ⟨_, asciiRun_mem, asciiRun_contains (isCapital_iff.1 hcapital), ?_⟩)
      rw [← Char.ofNat_toNat c.toLower, hcode]
      rfl
    · rw [if_neg hcapital, Char.toNat_inj] at hcode
      exact .inl (by rw [hcode])
  · rw [lowerChar, if_neg hascii, mapCase]
    by_cases hlong : c.toNat = 0x130
    · rw [hlong]
      exact .inr (.inl ⟨rfl, rfl⟩)
    · have hlookup : lowerLong.lookup c.toNat = none := by
        rw [lowerLong, List.lookup_cons, beq_false_of_ne hlong]
        rfl
      rw [hlookup]
      dsimp only
      rw [CaseRun.map]
      cases hfound : lowerRuns.find? (·.contains c.toNat) with
      | none => exact .inl rfl
      | some run =>
        have hmember : run.contains c.toNat = true := by simpa using List.find?_some hfound
        exact .inr (.inr ⟨run, List.mem_of_find?_eq_some hfound, hmember, rfl⟩)

/-- **What is not in the table stays as it is.** -/
theorem lowerChar_of_not_contains (hruns : ∀ run ∈ lowerRuns, ¬ run.contains c.toNat = true)
    (hlong : c.toNat ≠ 0x130) : lowerChar c = [c] := by
  rcases lowerChar_cases c with hsame | ⟨hcode, -⟩ | ⟨run, hrun, hmember, -⟩
  · exact hsame
  · exact absurd hcode hlong
  · exact absurd hmember (hruns run hrun)

/-! ## Characters in lower case -/

/-- **A character in lower case:** lowering changes it in no surroundings. -/
def IsLower (c : Char) : Prop := c ≠ 'Σ' ∧ lowerChar c = [c]

instance (c : Char) : Decidable (IsLower c) := inferInstanceAs (Decidable (_ ∧ _))

/-- The lower-case form of a character is in lower case. -/
theorem isLower_of_mem_lowerChar (hc : c ≠ 'Σ') (hd : d ∈ lowerChar c) : IsLower d := by
  rcases lowerChar_cases c with hsame | ⟨-, hlong⟩ | ⟨run, hrun, hmember, hpartner⟩
  · rw [hsame, List.mem_singleton] at hd
    subst hd
    exact ⟨hc, hsame⟩
  · rw [hlong] at hd
    rcases List.mem_pair.1 hd with rfl | rfl
    · decide +kernel
    · decide +kernel
  · rw [hpartner, List.mem_singleton] at hd
    obtain ⟨hvalid, hmisses, havoids⟩ := lowerRuns_settled run hrun
    have hcode : d.toNat = run.partner c.toNat := hd ▸ CaseRun.toNat_partner hvalid hmember
    have hnone : ∀ other ∈ lowerRuns, ¬ other.contains d.toNat = true := fun other hother =>
      hcode ▸ CaseRun.not_contains_of_misses (hmisses other hother) hvalid hmember
    refine ⟨?_, lowerChar_of_not_contains hnone fun hlong => ?_⟩
    · -- a capital sigma is itself in the table
      rintro rfl
      have hsigma : ∃ run ∈ lowerRuns, run.contains 'Σ'.toNat = true := by decide +kernel
      obtain ⟨other, hother, hcontains⟩ := hsigma
      exact hnone other hother hcontains
    · refine CaseRun.not_contains_of_avoids (havoids _ List.mem_cons_self) hvalid hmember ?_
      rw [← hcode, hlong]
      rfl

/-- It is no white space if the character is none. -/
theorem isBlank_of_mem_lowerChar (hd : d ∈ lowerChar c) (hc : isBlank c = false) :
    isBlank d = false := by
  rcases lowerChar_cases c with hsame | ⟨-, hlong⟩ | ⟨run, hrun, hmember, hpartner⟩
  · rw [hsame, List.mem_singleton] at hd
    rwa [hd]
  · rw [hlong] at hd
    rcases List.mem_pair.1 hd with rfl | rfl
    · decide +kernel
    · decide +kernel
  · rw [hpartner, List.mem_singleton] at hd
    obtain ⟨hvalid, -, havoids⟩ := lowerRuns_settled run hrun
    have hcode : d.toNat = run.partner c.toNat := hd ▸ CaseRun.toNat_partner hvalid hmember
    rw [isBlank, CodeRange.anyContains, List.any_eq_false]
    intro range hrange
    rw [hcode]
    exact CaseRun.not_contains_of_avoids (havoids range (List.mem_cons_of_mem _ hrange)) hvalid
      hmember

/-- Both forms of a small sigma are in lower case, and neither is white space. -/
theorem isLower_lowerSigma (before after : Text) :
    IsLower (lowerSigma before after) ∧ isBlank (lowerSigma before after) = false := by
  rw [lowerSigma]
  split
  · decide +kernel
  · decide +kernel

/-! ## Texts in lower case -/

/-- What a text is lowered to comes from its characters. -/
theorem of_mem_lowerAfter {before text : Text} (hd : d ∈ lowerAfter before text) :
    IsLower d ∧ ((∀ c ∈ text, isBlank c = false) → isBlank d = false) := by
  induction text generalizing before with
  | nil => cases hd
  | cons c rest ih =>
    rw [lowerAfter, List.mem_append] at hd
    rcases hd with hfirst | hrest
    · by_cases hsigma : c = 'Σ'
      · rw [if_pos hsigma, List.mem_singleton] at hfirst
        obtain ⟨hlower, hblank⟩ := isLower_lowerSigma before rest
        rw [hfirst]
        exact ⟨hlower, fun _ => hblank⟩
      · rw [if_neg hsigma] at hfirst
        refine ⟨isLower_of_mem_lowerChar hsigma hfirst, fun hnone => ?_⟩
        exact isBlank_of_mem_lowerChar hfirst (hnone c List.mem_cons_self)
    · obtain ⟨hlower, hblank⟩ := ih hrest
      exact ⟨hlower, fun hnone => hblank fun c hc => hnone c (List.mem_cons_of_mem _ hc)⟩

/-- A text of characters in lower case stays as it is. -/
theorem lowerAfter_of_isLower {text : Text} (h : ∀ c ∈ text, IsLower c) (before : Text) :
    lowerAfter before text = text := by
  induction text generalizing before with
  | nil => rfl
  | cons c rest ih =>
    obtain ⟨⟨hsigma, hchar⟩, hrest⟩ := List.forall_mem_cons.1 h
    rw [lowerAfter, if_neg hsigma, hchar, ih hrest]
    rfl

/-- **To lower a text twice is to lower it once.** -/
theorem toLower_toLower (text : Text) : toLower (toLower text) = toLower text :=
  lowerAfter_of_isLower (fun _ hc => (of_mem_lowerAfter hc).1) []

/-- A text without white space has nothing to lose. -/
theorem stripBlanks_of_none {text : Text} (h : ∀ c ∈ text, isBlank c = false) :
    stripBlanks text = text :=
  List.filter_eq_self.2 fun c hc => by rw [h c hc]; rfl

end Text

/-! ## Names in normal form -/

/-- **A name in normal form has no white space.** -/
theorem isBlank_of_mem_normalizeName {c : Char} {text : Text} (hc : c ∈ normalizeName text) :
    Text.isBlank c = false := by
  refine (Text.of_mem_lowerAfter hc).2 fun kept hkept => ?_
  rw [Text.stripBlanks, List.mem_filter] at hkept
  simpa using hkept.2

/-- **The normal form of a name is its own normal form.** -/
theorem normalizeName_normalizeName (text : Text) :
    normalizeName (normalizeName text) = normalizeName text := by
  rw [normalizeName, Text.stripBlanks_of_none fun _ => isBlank_of_mem_normalizeName]
  exact Text.toLower_toLower _

end MapScript
