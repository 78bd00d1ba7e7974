/-
Substituting one occurrence after the other, and replacing all occurrences at once.

A variable is substituted by replacing the first occurrence of its name and searching the new
text again from its start. In general the search may come upon an occurrence that was not there
before: one that the data bring, or one that has formed where the data meet the text around them.
Neither can happen where the data are not empty and have no character of the name
(`Text.Foreign`), since such data take part in no occurrence (`Text.infix_of_foreign`). Then the
part of the text up to the data that were put in last is done with (`Text.Passed`), the search
goes on behind it, and the occurrences that are replaced are those of the first text, counted from
the left so that none overlaps the one before (`Text.occurrences`).

So substituting a variable is replacing all occurrences of its name, or an error where there are
more of them than replacements (`Rewrite.substitute_of_foreign`). A name that is gone stays away
while other variables are substituted, because their data take no part in it either, and the law
carries over to a whole scope (`Rewrite.substitution_replaceAll`).
-/
import MapScript.Proofs.Rewriting

set_option autoImplicit false

namespace MapScript

namespace Text

/-! ## Searching from the left -/

/-- An occurrence with a text in front of it. -/
def Occurrence.behind (front : Text) (o : Occurrence) : Occurrence :=
  { o with before := front ++ o.before }

/-- Where the pattern does not stand the search goes on with the next character. -/
theorem find?_cons_of_not_start {pattern rest : Text} {c : Char} (h : ¬ pattern <+: c :: rest) :
    find? pattern (c :: rest) = (find? pattern rest).map (Occurrence.behind [c]) := by
  have hmatch : matchStart? id pattern (c :: rest) = none := by
    rw [matchStart?_eq_none_iff, List.map_id]
    exact h
  rw [find?, findFolded?, hmatch]
  rfl

/-- Where it stands it is found. -/
theorem find?_append (pattern rest : Text) :
    find? pattern (pattern ++ rest) = some ⟨[], pattern, rest⟩ :=
  findFolded?_append (List.map_id _) rest

/-- A pattern that is not empty does not occur in the empty text. -/
theorem find?_nil {pattern : Text} (hpattern : pattern ≠ []) : find? pattern [] = none :=
  find?_eq_none_iff.2 fun h => hpattern (List.infix_nil.1 h)

/-- **The pattern does not occur before its first occurrence.** -/
theorem not_infix_before_of_find? {pattern : Text} (hpattern : pattern ≠ []) {text : Text}
    {o : Occurrence} (h : find? pattern text = some o) : ¬ pattern <:+: o.before := by
  induction text generalizing o with
  | nil =>
    rw [find?_nil hpattern] at h
    cases h
  | cons c rest ih =>
    by_cases hstart : pattern <+: c :: rest
    · obtain ⟨after, hafter⟩ := hstart
      rw [← hafter, find?_append] at h
      obtain rfl := Option.some.inj h
      exact fun hinfix => hpattern (List.infix_nil.1 hinfix)
    · rw [find?_cons_of_not_start hstart] at h
      obtain ⟨later, hlater, rfl⟩ := Option.map_eq_some_iff.1 h
      intro hinfix
      rcases List.infix_cons_iff.1 hinfix with hbegins | hinfix'
      · refine hstart (hbegins.trans ?_)
        rw [eq_append_of_find? hlater, List.append_assoc]
        exact ⟨_, rfl⟩
      · exact ih hlater hinfix'

/-! ## Counting and replacing -/

/-- The number of occurrences of a pattern in a text whose first `skip` characters belong to an
occurrence that has been counted. -/
def occurrencesFrom (pattern : Text) : (skip : Nat) → Text → Nat
  | _, [] => 0
  | skip + 1, _ :: rest => occurrencesFrom pattern skip rest
  | 0, c :: rest =>
    if pattern <+: c :: rest then occurrencesFrom pattern (pattern.length - 1) rest + 1
    else occurrencesFrom pattern 0 rest

/-- **The number of occurrences of a pattern,** counted from the left, where an occurrence that
overlaps one that has been counted does not count. -/
def occurrences (pattern text : Text) : Nat := occurrencesFrom pattern 0 text

/-- The characters of an occurrence that has been counted are passed. -/
theorem occurrencesFrom_append (pattern part text : Text) :
    occurrencesFrom pattern part.length (part ++ text) = occurrences pattern text := by
  induction part with
  | nil => rfl
  | cons c part ih => exact ih

/-- A text has at least as many characters as occurrences. -/
theorem occurrencesFrom_le_length (pattern : Text) (skip : Nat) (text : Text) :
    occurrencesFrom pattern skip text ≤ text.length := by
  fun_induction occurrencesFrom pattern skip text with
  | case1 => exact Nat.zero_le _
  | case2 skip c rest ih => exact ih.trans (by simp)
  | case3 c rest hstart ih => simpa using ih
  | case4 c rest hstart ih => exact ih.trans (by simp)

/-- A text without a first occurrence has none. -/
theorem occurrences_of_none {pattern text : Text} (h : find? pattern text = none) :
    occurrences pattern text = 0 := by
  rw [find?_eq_none_iff] at h
  induction text with
  | nil => rfl
  | cons c rest ih =>
    rw [List.infix_cons_iff, not_or] at h
    rw [occurrences, occurrencesFrom, if_neg h.1]
    exact ih h.2

/-- **Behind the first occurrence there is one less.** -/
theorem occurrences_of_some {pattern : Text} (hpattern : pattern ≠ []) {text : Text}
    {o : Occurrence} (h : find? pattern text = some o) :
    occurrences pattern text = occurrences pattern o.after + 1 := by
  induction text generalizing o with
  | nil =>
    rw [find?_nil hpattern] at h
    cases h
  | cons c rest ih =>
    by_cases hstart : pattern <+: c :: rest
    · rw [occurrences, occurrencesFrom, if_pos hstart]
      obtain ⟨after, hafter⟩ := hstart
      rw [← hafter, find?_append] at h
      obtain rfl := Option.some.inj h
      obtain ⟨first, others, rfl⟩ := List.exists_cons_of_ne_nil hpattern
      rw [List.cons_append, List.cons.injEq] at hafter
      rw [← hafter.2, List.length_cons, Nat.add_sub_cancel, occurrencesFrom_append]
    · rw [find?_cons_of_not_start hstart] at h
      obtain ⟨later, hlater, rfl⟩ := Option.map_eq_some_iff.1 h
      rw [occurrences, occurrencesFrom, if_neg hstart]
      have hrest := ih hlater
      exact hrest

section Replacing

variable {pattern : Text} (hpattern : pattern ≠ []) (replacement : Text) {text : Text}

/-- Where the pattern does not occur nothing is replaced. -/
theorem replaceAllWithin_of_none (h : find? pattern text = none) (count : Nat) :
    replaceAllWithin pattern replacement count text = text := by
  cases count with
  | zero => rfl
  | succ count => simp [replaceAllWithin, h]

include hpattern

/-- The first occurrence is replaced, and the others behind it. -/
theorem replaceAllWithin_of_some {o : Occurrence} (h : find? pattern text = some o) (count : Nat) :
    replaceAllWithin pattern replacement (count + 1) text =
      o.before ++ replacement ++ replaceAllWithin pattern replacement count o.after := by
  rw [replaceAllWithin, if_neg hpattern, h]

/-- Two numbers of replacements that both suffice give the same text. -/
theorem replaceAllWithin_congr {count count' : Nat} (h : occurrences pattern text ≤ count)
    (h' : occurrences pattern text ≤ count') :
    replaceAllWithin pattern replacement count text =
      replaceAllWithin pattern replacement count' text := by
  induction count generalizing count' text with
  | zero =>
    cases hfind : find? pattern text with
    | none => rw [replaceAllWithin_of_none _ hfind, replaceAllWithin_of_none _ hfind]
    | some o =>
      rw [occurrences_of_some hpattern hfind] at h
      omega
  | succ count ih =>
    cases hfind : find? pattern text with
    | none => rw [replaceAllWithin_of_none _ hfind, replaceAllWithin_of_none _ hfind]
    | some o =>
      rw [occurrences_of_some hpattern hfind] at h h'
      obtain ⟨less, rfl⟩ := Nat.exists_eq_add_of_le' (Nat.le_of_add_left_le h')
      rw [replaceAllWithin_of_some hpattern _ hfind, replaceAllWithin_of_some hpattern _ hfind]
      have hbehind : replaceAllWithin pattern replacement count o.after =
          replaceAllWithin pattern replacement less o.after := ih (by omega) (by omega)
      rw [hbehind]

/-- **As many replacements as there are occurrences replace them all,** and more do not matter. -/
theorem replaceAllWithin_of_le {count : Nat} (h : occurrences pattern text ≤ count) :
    replaceAllWithin pattern replacement count text = replaceAll pattern replacement text :=
  replaceAllWithin_congr hpattern replacement h (occurrencesFrom_le_length pattern 0 text)

/-- So replacing all occurrences replaces the first one and all behind it. -/
theorem replaceAll_of_some {o : Occurrence} (h : find? pattern text = some o) :
    replaceAll pattern replacement text =
      o.before ++ replacement ++ replaceAll pattern replacement o.after := by
  rw [← replaceAllWithin_of_le hpattern replacement le_rfl, occurrences_of_some hpattern h,
    replaceAllWithin_of_some hpattern _ h, replaceAllWithin_of_le hpattern _ le_rfl]

end Replacing

/-- The empty pattern is not replaced. -/
theorem replaceAll_nil (replacement text : Text) : replaceAll [] replacement text = text := by
  rw [replaceAll]
  cases text.length <;> simp [replaceAllWithin]

/-! ## Texts that take no part in an occurrence -/

/-- **A text that can take no part in an occurrence of a pattern:** it is not empty and has no
character of the pattern. -/
def Foreign (data pattern : Text) : Prop := data ≠ [] ∧ ∀ c ∈ data, c ∉ pattern

instance (data pattern : Text) : Decidable (Foreign data pattern) :=
  have : Decidable (∀ c ∈ data, c ∉ pattern) := List.decidableBAll (fun c => c ∉ pattern) data
  inferInstanceAs (Decidable (_ ∧ _))

/-- A pattern does not begin with a character that it does not have. -/
theorem not_prefix_of_not_mem {pattern : Text} (hpattern : pattern ≠ []) {c : Char}
    (hc : c ∉ pattern) (rest : Text) : ¬ pattern <+: c :: rest := by
  obtain ⟨first, others, rfl⟩ := List.exists_cons_of_ne_nil hpattern
  rw [List.cons_prefix_cons]
  rintro ⟨rfl, -⟩
  exact hc List.mem_cons_self

/-- An occurrence lies behind characters that the pattern does not have. -/
theorem infix_of_not_mem {data pattern right : Text} (hdata : ∀ c ∈ data, c ∉ pattern)
    (h : pattern <:+: data ++ right) : pattern <:+: right := by
  by_cases hpattern : pattern = []
  · exact hpattern ▸ List.nil_infix
  induction data with
  | nil => exact h
  | cons c data ih =>
    obtain ⟨hc, hrest⟩ := List.forall_mem_cons.1 hdata
    refine ih hrest ((List.infix_cons_iff.1 h).resolve_left ?_)
    exact not_prefix_of_not_mem hpattern hc _

/-- So the search goes on behind them. -/
theorem find?_of_not_mem {pattern : Text} (hpattern : pattern ≠ []) {data : Text}
    (hdata : ∀ c ∈ data, c ∉ pattern) (right : Text) :
    find? pattern (data ++ right) = (find? pattern right).map (Occurrence.behind data) := by
  induction data with
  | nil => exact Option.map_id'.symm
  | cons c data ih =>
    obtain ⟨hc, hrest⟩ := List.forall_mem_cons.1 hdata
    rw [List.cons_append, find?_cons_of_not_start (not_prefix_of_not_mem hpattern hc _), ih hrest,
      Option.map_map]
    rfl

section Foreign

variable {data pattern : Text} (hforeign : Foreign data pattern)

include hforeign

/-- A pattern at the beginning of a text ends before a foreign part. -/
theorem prefix_of_foreign {left right : Text} (h : pattern <+: left ++ data ++ right) :
    pattern <+: left := by
  obtain ⟨rest, hrest⟩ := h
  rw [List.append_assoc] at hrest
  rcases List.append_eq_append_iff.1 hrest with ⟨part, hleft, -⟩ | ⟨part, hpattern, hpart⟩
  · exact ⟨part, hleft.symm⟩
  · -- what the pattern has behind `left` would begin as the foreign part does
    obtain ⟨hne, hnot⟩ := hforeign
    obtain ⟨first, others, rfl⟩ := List.exists_cons_of_ne_nil hne
    cases part with
    | nil => exact ⟨[], by simpa using hpattern⟩
    | cons c part =>
      obtain rfl := (List.cons.inj hpart).1
      exact absurd (by simp [hpattern]) (hnot first List.mem_cons_self)

/-- **An occurrence lies on one side of a foreign part.** -/
theorem infix_of_foreign {left right : Text} (h : pattern <:+: left ++ data ++ right) :
    pattern <:+: left ∨ pattern <:+: right := by
  induction left with
  | nil => exact .inr (infix_of_not_mem hforeign.2 h)
  | cons c left ih =>
    rw [List.cons_append, List.cons_append] at h
    rcases List.infix_cons_iff.1 h with hstart | hlater
    · exact .inl (prefix_of_foreign hforeign hstart).isInfix
    · exact (ih hlater).imp (fun hleft => List.infix_cons hleft) id

/-- **The search passes a part without occurrences and a foreign part behind it.** -/
theorem find?_of_foreign (hpattern : pattern ≠ []) {left : Text} (hleft : ¬ pattern <:+: left)
    (right : Text) :
    find? pattern (left ++ data ++ right) =
      (find? pattern right).map (Occurrence.behind (left ++ data)) := by
  induction left with
  | nil => exact find?_of_not_mem hpattern hforeign.2 right
  | cons c left ih =>
    rw [List.infix_cons_iff, not_or] at hleft
    have hstart : ¬ pattern <+: c :: (left ++ data ++ right) :=
      fun h => hleft.1 (prefix_of_foreign hforeign h)
    rw [List.cons_append, List.cons_append, find?_cons_of_not_start hstart, ih hleft.2,
      Option.map_map]
    rfl

end Foreign

/-- **A part of a text in which no occurrence of a pattern begins,** whatever stands behind it. -/
def Passed (pattern front : Text) : Prop :=
  ∀ text, find? pattern (front ++ text) = (find? pattern text).map (Occurrence.behind front)

/-- Before a text there is nothing that could hold one. -/
theorem passed_nil (pattern : Text) : Passed pattern [] := fun _ => Option.map_id'.symm

/-- Behind a part that is passed another one can be passed. -/
theorem Passed.append {pattern front front' : Text} (h : Passed pattern front)
    (h' : Passed pattern front') : Passed pattern (front ++ front') := by
  intro text
  rw [List.append_assoc, h, h', Option.map_map]
  exact congrArg (Option.map · _) (funext fun o => by simp [Occurrence.behind])

end Text

namespace Rewrite

open Text (Foreign occurrences replaceAll replaceAllWithin)

/-! ## One variable -/

/-- Where the part that has not been passed has no occurrence of a name nothing is substituted. -/
theorem substitute_of_passed {name front text : Text} (hfront : Text.Passed name front)
    (hnone : Text.find? name text = none) (limit budget : Nat) (data : Text) :
    substitute limit name data budget (front ++ text) = .ok (front ++ text) := by
  refine substitute_of_not_infix (Text.find?_eq_none_iff.1 ?_)
  rw [hfront, hnone]
  rfl

/-- **Substituting a variable with foreign data replaces all occurrences of its name,** in the part
of the text that has not been passed. Where there are more occurrences than replacements may be
made, as many as may be are replaced, and that is the error. -/
theorem substitute_of_foreign {name data : Text} (hname : name ≠ []) (hforeign : Foreign data name)
    (limit budget : Nat) {front : Text} (hfront : Text.Passed name front) (text : Text) :
    substitute limit name data budget (front ++ text) =
      if occurrences name text ≤ budget then .ok (front ++ replaceAll name data text)
      else .error (.variableSubstitution name
        (.didNotConverge limit (front ++ replaceAllWithin name data budget text))) := by
  induction budget generalizing front text with
  | zero =>
    cases hfind : Text.find? name text with
    | none =>
      rw [substitute_of_passed hfront hfind, Text.occurrences_of_none hfind, if_pos le_rfl,
        replaceAll, Text.replaceAllWithin_of_none _ hfind]
    | some o =>
      have hmore : ¬ occurrences name text ≤ 0 := by
        rw [Text.occurrences_of_some hname hfind]
        omega
      rw [substitute, hfront, hfind, if_neg hmore]
      rfl
  | succ budget ih =>
    cases hfind : Text.find? name text with
    | none =>
      rw [substitute_of_passed hfront hfind, Text.occurrences_of_none hfind,
        if_pos (Nat.zero_le _), replaceAll, Text.replaceAllWithin_of_none _ hfind]
    | some o =>
      -- the text up to the data that are put in is passed, and the search goes on behind it
      have hnext : Text.Passed name (front ++ (o.before ++ data)) :=
        hfront.append fun right =>
          Text.find?_of_foreign hforeign hname (Text.not_infix_before_of_find? hname hfind) right
      have hreplace : (Text.Occurrence.behind front o).replace data =
          front ++ (o.before ++ data) ++ o.after := by
        simp [Text.Occurrence.replace, Text.Occurrence.behind]
      have hfirst : Text.find? name (front ++ text) = some (Text.Occurrence.behind front o) := by
        rw [hfront, hfind]
        rfl
      rw [substitute, hfirst]
      dsimp only
      rw [hreplace, ih hnext, Text.occurrences_of_some hname hfind,
        Text.replaceAll_of_some hname data hfind, Text.replaceAllWithin_of_some hname data hfind]
      simp only [Nat.add_le_add_iff_right, List.append_assoc]

/-! ## The variables of a scope -/

/-- The text in which one variable after the other has been replaced by its data, all occurrences of
its name at once. -/
def replacedBy (vars : List Variable) (text : Text) : Text :=
  vars.foldl (fun text var => replaceAll var.name var.dataOrEmpty text) text

/-- **No variable has more occurrences than the limit allows** in the text that the variables before
it have left. -/
def WithinLimit (limit : Nat) (vars : List Variable) (text : Text) : Prop :=
  ∀ before var after, vars = before ++ var :: after → var.name ≠ [] →
    occurrences var.name (replacedBy before text) ≤ limit

/-- **Variables that keep apart:** the data of a variable take no part in an occurrence of any
name. -/
def Separated (vars : List Variable) : Prop :=
  ∀ var ∈ vars, var.name ≠ [] → ∀ other ∈ vars, Foreign var.dataOrEmpty other.name

instance (vars : List Variable) : Decidable (Separated vars) :=
  List.decidableBAll (fun var : Variable => var.name ≠ [] →
    ∀ other ∈ vars, Foreign var.dataOrEmpty other.name) vars

/-- Without variables no limit is exceeded. -/
theorem withinLimit_nil (limit : Nat) (text : Text) : WithinLimit limit [] text := by
  intro before var after hsplit
  simp at hsplit

/-- The first variable has its occurrences in the text, and the others in what it leaves. -/
theorem withinLimit_cons {limit : Nat} {var : Variable} {rest : List Variable} {text : Text} :
    WithinLimit limit (var :: rest) text ↔
      (var.name ≠ [] → occurrences var.name text ≤ limit) ∧
        WithinLimit limit rest (replaceAll var.name var.dataOrEmpty text) := by
  constructor
  · intro h
    refine ⟨h [] var rest rfl, ?_⟩
    rintro before other after rfl
    exact h (var :: before) other after rfl
  · rintro ⟨hfirst, hrest⟩ before other after hsplit
    cases before with
    | nil =>
      obtain ⟨rfl, -⟩ := List.cons.inj hsplit
      exact hfirst
    | cons var' before =>
      obtain ⟨rfl, hsplit'⟩ := List.cons.inj hsplit
      exact hrest before other after hsplit'

/-- Where a limit is exceeded, some variable is the first to exceed it. -/
theorem exists_first_over {limit : Nat} {vars : List Variable} {text : Text}
    (h : ¬ WithinLimit limit vars text) :
    ∃ before var after, vars = before ++ var :: after ∧ var.name ≠ [] ∧
      WithinLimit limit before text ∧ limit < occurrences var.name (replacedBy before text) := by
  induction vars generalizing text with
  | nil => exact absurd (withinLimit_nil limit text) h
  | cons var rest ih =>
    by_cases hfirst : var.name ≠ [] → occurrences var.name text ≤ limit
    · have hrest : ¬ WithinLimit limit rest (replaceAll var.name var.dataOrEmpty text) :=
        fun hrest => h (withinLimit_cons.2 ⟨hfirst, hrest⟩)
      obtain ⟨before, other, after, rfl, hname, hbefore, hover⟩ := ih hrest
      exact ⟨var :: before, other, after, rfl, hname, withinLimit_cons.2 ⟨hfirst, hbefore⟩, hover⟩
    · push Not at hfirst
      exact ⟨[], var, rest, rfl, hfirst.1, withinLimit_nil limit text, hfirst.2⟩

/-- The first variable is replaced at all occurrences of its name, if it may be. -/
theorem substituteAll_of_le {limit : Nat} {var : Variable} {rest : List Variable} {text : Text}
    (hforeign : var.name ≠ [] → Foreign var.dataOrEmpty var.name)
    (hle : var.name ≠ [] → occurrences var.name text ≤ limit) :
    substituteAll limit (var :: rest) text =
      substituteAll limit rest (replaceAll var.name var.dataOrEmpty text) := by
  rw [substituteAll]
  split
  · rename_i hname
    rw [hname, Text.replaceAll_nil]
  · rename_i hname
    have hvar := substitute_of_foreign hname (hforeign hname) limit limit
      (Text.passed_nil var.name) text
    rw [if_pos (hle hname)] at hvar
    simp only [List.nil_append] at hvar
    rw [hvar]

/-- If there are too many of them it is the error, with the text in which as many as may be are
replaced. -/
theorem substituteAll_of_lt {limit : Nat} {var : Variable} {rest : List Variable} {text : Text}
    (hname : var.name ≠ []) (hforeign : Foreign var.dataOrEmpty var.name)
    (hlt : limit < occurrences var.name text) :
    substituteAll limit (var :: rest) text =
      .error (.variableSubstitution var.name
        (.didNotConverge limit (replaceAllWithin var.name var.dataOrEmpty limit text))) := by
  have hvar := substitute_of_foreign hname hforeign limit limit (Text.passed_nil var.name) text
  rw [if_neg (by omega)] at hvar
  simp only [List.nil_append] at hvar
  rw [substituteAll, if_neg hname, hvar]

/-- **Within the limit all variables of a list are replaced,** one after the other. -/
theorem substituteAll_of_withinLimit {limit : Nat} {vars : List Variable}
    (hforeign : ∀ var ∈ vars, var.name ≠ [] → Foreign var.dataOrEmpty var.name) {text : Text}
    (h : WithinLimit limit vars text) :
    substituteAll limit vars text = .ok (replacedBy vars text) := by
  induction vars generalizing text with
  | nil => rfl
  | cons var rest ih =>
    obtain ⟨hvar, hrest⟩ := List.forall_mem_cons.1 hforeign
    obtain ⟨hle, hwithin⟩ := withinLimit_cons.1 h
    rw [substituteAll_of_le hvar hle, ih hrest hwithin]
    rfl

/-- **A name that does not occur does not come back** while variables with foreign data are
substituted. -/
theorem not_infix_of_substituteAll {limit : Nat} {name : Text} {vars : List Variable}
    (hforeign : ∀ var ∈ vars, var.name ≠ [] → Foreign var.dataOrEmpty name) {text out : Text}
    (h : substituteAll limit vars text = .ok out) (hnot : ¬ name <:+: text) : ¬ name <:+: out := by
  induction vars generalizing text with
  | nil => exact Except.ok.inj h ▸ hnot
  | cons var rest ih =>
    obtain ⟨hvar, hrest⟩ := List.forall_mem_cons.1 hforeign
    rw [substituteAll] at h
    split at h
    · exact ih hrest h hnot
    · rename_i hname
      split at h
      · rename_i mid hmid
        refine ih hrest h ?_
        -- an occurrence in the new text lies before or behind the data, and so in the old text
        refine (substitute_induction (P := fun text out => ¬ name <:+: text → ¬ name <:+: out)
          (fun _ => id) ?_ hmid).1 hnot
        intro before after out hout hold
        refine hout fun hnew => hold ?_
        rcases Text.infix_of_foreign (hvar hname) hnew with hleft | hright
        · exact hleft.trans ⟨[], var.name ++ after, by simp⟩
        · exact hright.trans ⟨before ++ var.name, [], by simp⟩
      · cases h

/-- So none of the names of a list is left. -/
theorem names_gone_of_substituteAll {limit : Nat} {vars : List Variable} (h : Separated vars)
    {text out : Text} (hout : substituteAll limit vars text = .ok out) :
    ∀ var ∈ vars, var.name ≠ [] → ¬ var.name <:+: out := by
  intro var hvar hname
  obtain ⟨before, after, rfl⟩ := List.append_of_mem hvar
  rw [substituteAll_append] at hout
  cases hbefore : substituteAll limit before text with
  | error error => rw [hbefore] at hout; cases hout
  | ok mid =>
    rw [hbefore] at hout
    simp only [Except.bind] at hout
    rw [substituteAll, if_neg hname] at hout
    split at hout
    · rename_i next hnext
      have hgone : ¬ var.name <:+: next :=
        (substitute_induction (P := fun _ _ => True) (fun _ => trivial) (fun _ => trivial) hnext).2
      refine not_infix_of_substituteAll (fun other hother hname' => ?_) hout hgone
      exact h other (by simp [hother]) hname' var (by simp)
    · cases hout

section Scopes

variable {config : Config} {scope : Scope} {input : Text}

/-- Within the limit the substitution of a scope is the text in which all variables are replaced. -/
theorem substitution_of_withinLimit (h : Separated scope.toList)
    (hlimit : WithinLimit config.maxExpansions scope.toList input) :
    substitution config scope input = .ok (compare input (replacedBy scope.toList input)) := by
  rw [substitution, substituteAll_of_withinLimit (fun var hvar hname => h var hvar hname var hvar)
    hlimit]
  rfl

/-- Beyond the limit it is the error of the first variable with too many occurrences. -/
theorem substitution_of_not_withinLimit (h : Separated scope.toList)
    (hlimit : ¬ WithinLimit config.maxExpansions scope.toList input) :
    ∃ before var after, scope.toList = before ++ var :: after ∧ var.name ≠ [] ∧
      WithinLimit config.maxExpansions before input ∧
      config.maxExpansions < occurrences var.name (replacedBy before input) ∧
      substitution config scope input =
        .error (.variableSubstitution var.name (.didNotConverge config.maxExpansions
          (replaceAllWithin var.name var.dataOrEmpty config.maxExpansions
            (replacedBy before input)))) := by
  obtain ⟨before, var, after, hsplit, hname, hbefore, hlt⟩ := exists_first_over hlimit
  refine ⟨before, var, after, hsplit, hname, hbefore, hlt, ?_⟩
  have hforeign : ∀ var ∈ scope.toList, var.name ≠ [] → Foreign var.dataOrEmpty var.name :=
    fun var hvar hname => h var hvar hname var hvar
  rw [hsplit] at hforeign
  obtain ⟨hearlier, hlater⟩ := List.forall_mem_append.1 hforeign
  obtain ⟨hvar, -⟩ := List.forall_mem_cons.1 hlater
  rw [substitution, hsplit, substituteAll_append, substituteAll_of_withinLimit hearlier hbefore]
  simp only [Except.bind]
  rw [substituteAll_of_lt hname (hvar hname) hlt]
  rfl

/-- A substitution without an error is within the limit. -/
theorem withinLimit_of_substitution (h : Separated scope.toList) {rewrite : Rewrite}
    (hok : substitution config scope input = .ok rewrite) :
    WithinLimit config.maxExpansions scope.toList input := by
  by_contra hlimit
  obtain ⟨_, _, _, -, -, -, -, herror⟩ := substitution_of_not_withinLimit h hlimit
  rw [hok] at herror
  cases herror

end Scopes

/-- **Substituting variables one occurrence at a time is replacing all occurrences of each at
once,** where the variables keep apart.

* The substitution succeeds exactly if no variable has more occurrences than the limit allows,
  counted from the left without overlaps in the text that the variables before it have left.
* Then its output is the text in which one variable after the other has been replaced at all
  occurrences of its name, and none of the names occurs in it.
* Otherwise it is the error of the first variable with too many occurrences, with the limit and the
  text in which just so many of them are replaced. -/
theorem substitution_replaceAll (config : Config) {scope : Scope} (h : Separated scope.toList)
    (input : Text) :
    ((∃ rewrite, substitution config scope input = .ok rewrite) ↔
      WithinLimit config.maxExpansions scope.toList input) ∧
    (∀ rewrite, substitution config scope input = .ok rewrite →
      rewrite.output = replacedBy scope.toList input ∧
        ∀ var ∈ scope.toList, var.name ≠ [] → ¬ var.name <:+: rewrite.output) ∧
    (¬ WithinLimit config.maxExpansions scope.toList input →
      ∃ before var after, scope.toList = before ++ var :: after ∧ var.name ≠ [] ∧
        WithinLimit config.maxExpansions before input ∧
        config.maxExpansions < occurrences var.name (replacedBy before input) ∧
        substitution config scope input =
          .error (.variableSubstitution var.name (.didNotConverge config.maxExpansions
            (replaceAllWithin var.name var.dataOrEmpty config.maxExpansions
              (replacedBy before input))))) := by
  refine ⟨⟨?_, fun hlimit => ⟨_, substitution_of_withinLimit h hlimit⟩⟩, ?_,
    substitution_of_not_withinLimit h⟩
  · rintro ⟨rewrite, hok⟩
    exact withinLimit_of_substitution h hok
  · intro rewrite hok
    obtain ⟨hout, -⟩ := of_substitution_eq_ok hok
    refine ⟨?_, names_gone_of_substituteAll h hout⟩
    rw [substitution_of_withinLimit h (withinLimit_of_substitution h hok)] at hok
    rw [← Except.ok.inj hok]
    rfl

/-- The name `aa` occurs twice, at the beginning and at the end; the occurrence in between overlaps
the first one. Where it has gone the name `ac` occurs once. -/
theorem substitution_replaceAll_overlapping :
    Separated [⟨"aa".toList, some "b".toList⟩, ⟨"ac".toList, some "d".toList⟩] ∧
    WithinLimit 2 [⟨"aa".toList, some "b".toList⟩, ⟨"ac".toList, some "d".toList⟩]
      "aaacaa".toList ∧
    ∃ rewrite, substitution ⟨1, 2, 0, false⟩
        ⟨[⟨"aa".toList, some "b".toList⟩], [⟨"ac".toList, some "d".toList⟩]⟩ "aaacaa".toList =
          .ok rewrite ∧
      rewrite.output = "bdb".toList := by
  have hseparated : Separated
      (Scope.toList ⟨[⟨"aa".toList, some "b".toList⟩], [⟨"ac".toList, some "d".toList⟩]⟩) := by
    decide
  have hlimit : WithinLimit 2 [⟨"aa".toList, some "b".toList⟩, ⟨"ac".toList, some "d".toList⟩]
      "aaacaa".toList :=
    withinLimit_cons.2 ⟨by decide, withinLimit_cons.2 ⟨by decide, withinLimit_nil _ _⟩⟩
  obtain ⟨hiff, hout, -⟩ := substitution_replaceAll ⟨1, 2, 0, false⟩ hseparated "aaacaa".toList
  obtain ⟨rewrite, hok⟩ := hiff.2 hlimit
  exact ⟨hseparated, hlimit, rewrite, hok, (hout rewrite hok).1⟩

end Rewrite

end MapScript
