/-
How the lines of a source are grouped to blocks.

The lines that count are those with a content, each with its number in the source
(`Script.contentLines`). A line can be wrong in two ways: it has no name, or it is a parameter
and no header comes before it (`Script.Offends`). The blocks are built from left to right with
the last one still open, so everything is said of the lines that are left and of the block that is
open when they are read: what the blocks hold in the end is what the open block holds and then
those lines, each once and in order (`directives_of_blocksFrom`), a header begins every block and
only parameters follow it (`grouped_of_blocksFrom`), and the first line that is wrong, if there is
one, ends the reading with its error (`blocksFrom_eq_error_iff`).
-/
import MapScript.Script
import MapScript.Proofs.ErrorLines

set_option autoImplicit false

namespace MapScript

namespace Script

/-! ## Lines with a content -/

/-- The lines of a source with a content, in order, each with its number. Lines are counted from
one; what is nothing but white space or begins with a hash has no content. -/
def contentLines (source : Text) : List (Nat × Text) :=
  ((source.lines.zipIdx 1).map Prod.swap).filter fun entry =>
    Text.trim entry.2 ≠ [] ∧ (Text.trim entry.2).head? ≠ some '#'

/-- Lines are numbered by their positions. -/
theorem numberFrom_eq_zipIdx (start : Nat) (lines : List Text) :
    numberFrom start lines = (lines.zipIdx start).map Prod.swap := by
  induction lines generalizing start with
  | nil => rfl
  | cons line rest ih => rw [numberFrom, ih, List.zipIdx_cons, List.map_cons, Prod.swap_prod_mk]

/-- A line is passed over when it is empty up to white space or begins with a hash. -/
theorem isSkipped_iff {line : Text} :
    isSkipped line = true ↔ Text.trim line = [] ∨ (Text.trim line).head? = some '#' := by
  rw [isSkipped]
  cases Text.trim line with
  | nil => simp
  | cons c rest => simp

/-- The lines that make up a script are those with a content. -/
theorem numberedLines_eq (source : Text) : numberedLines source = contentLines source := by
  rw [numberedLines, numberFrom_eq_zipIdx, contentLines]
  refine List.filter_congr fun entry _ => ?_
  by_cases hskipped : isSkipped entry.2 = true
  · have hempty := isSkipped_iff.1 hskipped
    simp [hskipped, ← not_or, hempty]
  · have hcontent := mt isSkipped_iff.2 hskipped
    simp [hskipped, ← not_or, hcontent]

/-! ## Names and kinds of lines -/

/-- The name of a line in normal form. -/
def lineName (line : Text) : Text := normalizeName (Variable.ofLine line).name

/-- The kind that a line has by its name. -/
def lineKind (line : Text) : DirectiveKind := DirectiveKind.ofName (lineName line)

/-- A line that begins a block. -/
def BeginsBlock (line : Text) : Prop := (lineKind line).isHeader = true

end Script

open Script (lineName lineKind BeginsBlock)

/-- A line that begins no block is a parameter; no line is a container. -/
theorem DirectiveKind.ofName_eq_parameter {name : Text}
    (h : ¬ (DirectiveKind.ofName name).isHeader = true) :
    DirectiveKind.ofName name = .parameter := by
  unfold DirectiveKind.ofName at h ⊢
  split at h
  · exact absurd rfl h
  · rename_i hdigit
    rw [if_neg hdigit]
    split at h
    · exact absurd rfl h
    · rename_i hworkspace
      rw [if_neg hworkspace]
      split at h
      · exact absurd rfl h
      · rename_i hvariable
        rw [if_neg hvariable]

/-- A line with a name is a directive of its kind. -/
theorem Directive.ofLine_of_named {line : Text} (h : lineName line ≠ []) (index : Nat) :
    ∃ directive, ofLine line index = .ok directive ∧ directive.kind = lineKind line :=
  ⟨_, if_neg h, rfl⟩

/-- A line without a name is no directive. -/
theorem Directive.ofLine_of_nameless {line : Text} (h : lineName line = []) (index : Nat) :
    ofLine line index = .error (.emptyName index) :=
  if_pos h

/-! ## Blocks as lists of directives -/

/-- The directives of a block in order. -/
def Block.directives (block : Block) : List Directive := block.header :: block.params

/-- The directives of a script in order. -/
def Script.directives (script : Script) : List Directive :=
  script.blocks.flatMap Block.directives

/-- **A block as it should be:** a header, and parameters under it. -/
structure Block.Grouped (block : Block) : Prop where
  header : block.header.kind.isHeader = true
  params : ∀ param ∈ block.params, param.kind = .parameter

/-- A parameter that is pushed comes last. -/
theorem Block.directives_push (block : Block) (param : Directive) :
    (block.push param).directives = block.directives ++ [param] := rfl

/-- A block stays as it should be when a parameter is pushed. -/
theorem Block.Grouped.push {block : Block} (h : block.Grouped) {param : Directive}
    (hparam : param.kind = .parameter) : (block.push param).Grouped := by
  refine ⟨h.header, fun other hother => ?_⟩
  rcases List.mem_append.1 hother with hold | hnew
  · exact h.params other hold
  · rw [List.mem_singleton.1 hnew, hparam]

namespace Script

/-! ## Reading one line -/

/-- What a parameter says that comes before any header. -/
def orphanMessage : Text :=
  "parameter appears before any workspace, function or var".toList

variable {unfinished : Option Block} {index : Nat} {line : Text}

/-- A line without a name ends the reading. -/
theorem blocksFrom_of_nameless (h : lineName line = []) (rest : List (Nat × Text)) :
    blocksFrom unfinished ((index, line) :: rest) = .error (.emptyName index) := by
  rw [blocksFrom, Directive.ofLine_of_nameless h]

/-- A header completes the open block and opens one. -/
theorem blocksFrom_of_header (hname : lineName line ≠ []) (hheader : BeginsBlock line)
    (index : Nat) :
    ∃ header, Directive.ofLine line index = .ok header ∧ header.kind.isHeader = true ∧
      ∀ unfinished rest, blocksFrom unfinished ((index, line) :: rest) =
        (blocksFrom (some ⟨header, []⟩) rest).map (unfinished.toList ++ ·) := by
  obtain ⟨header, hline, hkind⟩ := Directive.ofLine_of_named hname index
  have hisHeader : header.kind.isHeader = true := by
    rw [hkind]
    exact hheader
  refine ⟨header, hline, hisHeader, fun unfinished rest => ?_⟩
  rw [blocksFrom, hline]
  exact if_pos hisHeader

/-- A parameter goes to the open block. -/
theorem blocksFrom_of_parameter (hname : lineName line ≠ []) (hheader : ¬ BeginsBlock line)
    (index : Nat) :
    ∃ param, Directive.ofLine line index = .ok param ∧ param.kind = .parameter ∧
      ∀ block rest, blocksFrom (some block) ((index, line) :: rest) =
        blocksFrom (some (block.push param)) rest := by
  obtain ⟨param, hline, hkind⟩ := Directive.ofLine_of_named hname index
  have hparameter : param.kind = .parameter := by
    rw [hkind]
    exact DirectiveKind.ofName_eq_parameter hheader
  refine ⟨param, hline, hparameter, fun block rest => ?_⟩
  rw [blocksFrom, hline]
  dsimp only
  rw [hparameter]
  rfl

/-- Where no block is open it ends the reading. -/
theorem blocksFrom_of_orphan (hname : lineName line ≠ []) (hheader : ¬ BeginsBlock line)
    (rest : List (Nat × Text)) :
    blocksFrom none ((index, line) :: rest) =
      .error (.malformedLine index line orphanMessage) := by
  obtain ⟨param, hline, hkind⟩ := Directive.ofLine_of_named hname index
  rw [blocksFrom, hline]
  dsimp only
  rw [hkind, lineKind, DirectiveKind.ofName_eq_parameter hheader]
  rfl

/-! ## What blocks hold -/

/-- **The blocks hold what the open block holds, and then the lines,** each once and in order. -/
theorem directives_of_blocksFrom {lines : List (Nat × Text)} {blocks : List Block}
    (h : blocksFrom unfinished lines = .ok blocks) :
    (blocks.flatMap Block.directives).map Except.ok =
      (unfinished.toList.flatMap Block.directives).map Except.ok ++
        lines.map fun entry => Directive.ofLine entry.2 entry.1 := by
  induction lines generalizing unfinished blocks with
  | nil =>
    rw [← Except.ok.inj h, List.map_nil, List.append_nil]
  | cons entry rest ih =>
    obtain ⟨index, line⟩ := entry
    by_cases hname : lineName line = []
    · rw [blocksFrom_of_nameless hname] at h
      cases h
    by_cases hheader : BeginsBlock line
    · obtain ⟨header, hline, -, hblocks⟩ := blocksFrom_of_header hname hheader index
      rw [hblocks] at h
      obtain ⟨later, hlater, rfl⟩ := exists_of_map_eq_ok h
      have hrest := ih hlater
      rw [List.flatMap_append, List.map_append, hrest, List.map_cons, hline]
      rfl
    · obtain ⟨param, hline, -, hblocks⟩ := blocksFrom_of_parameter hname hheader index
      cases unfinished with
      | none =>
        rw [blocksFrom_of_orphan hname hheader] at h
        cases h
      | some block =>
        rw [hblocks] at h
        rw [ih h, List.map_cons, hline]
        simp [Block.directives_push]

/-- **Every block is a header with parameters under it.** -/
theorem grouped_of_blocksFrom {lines : List (Nat × Text)} {blocks : List Block}
    (hunfinished : ∀ block ∈ unfinished, block.Grouped)
    (h : blocksFrom unfinished lines = .ok blocks) : ∀ block ∈ blocks, block.Grouped := by
  induction lines generalizing unfinished blocks with
  | nil =>
    rw [← Except.ok.inj h]
    exact fun block hblock => hunfinished block (Option.mem_toList.1 hblock)
  | cons entry rest ih =>
    obtain ⟨index, line⟩ := entry
    by_cases hname : lineName line = []
    · rw [blocksFrom_of_nameless hname] at h
      cases h
    by_cases hheader : BeginsBlock line
    · obtain ⟨header, -, hkind, hblocks⟩ := blocksFrom_of_header hname hheader index
      rw [hblocks] at h
      obtain ⟨later, hlater, rfl⟩ := exists_of_map_eq_ok h
      have hopen : ∀ block ∈ some (⟨header, []⟩ : Block), block.Grouped := by
        rintro block ⟨⟩
        exact ⟨hkind, fun param hparam => nomatch hparam⟩
      intro block hblock
      rcases List.mem_append.1 hblock with hbefore | hafter
      · exact hunfinished block (Option.mem_toList.1 hbefore)
      · exact ih hopen hlater block hafter
    · obtain ⟨param, -, hkind, hblocks⟩ := blocksFrom_of_parameter hname hheader index
      cases unfinished with
      | none =>
        rw [blocksFrom_of_orphan hname hheader] at h
        cases h
      | some block =>
        rw [hblocks] at h
        have hpushed : ∀ pushed ∈ some (block.push param), pushed.Grouped := by
          rintro pushed ⟨⟩
          exact (hunfinished block rfl).push hkind
        exact ih hpushed h

/-! ## When lines can be grouped -/

/-- Lines can be grouped when each has a name, and a block is open when the first of them is
read unless that is a header. -/
theorem exists_blocksFrom_eq_ok_iff {lines : List (Nat × Text)} :
    (∃ blocks, blocksFrom unfinished lines = .ok blocks) ↔
      (∀ entry ∈ lines, lineName entry.2 ≠ []) ∧
        (unfinished.isSome ∨ lines = [] ∨
          ∃ first rest, lines = first :: rest ∧ BeginsBlock first.2) := by
  induction lines generalizing unfinished with
  | nil =>
    constructor
    · exact fun _ => ⟨List.forall_mem_nil _, .inr (.inl rfl)⟩
    · exact fun _ => ⟨_, rfl⟩
  | cons entry rest ih =>
    obtain ⟨index, line⟩ := entry
    rw [List.forall_mem_cons]
    by_cases hname : lineName line = []
    · rw [blocksFrom_of_nameless hname]
      constructor
      · rintro ⟨blocks, hblocks⟩
        cases hblocks
      · rintro ⟨⟨hnamed, -⟩, -⟩
        exact absurd hname hnamed
    by_cases hheader : BeginsBlock line
    · -- the rest is read with a block open, whatever was open before
      obtain ⟨header, -, -, hblocks⟩ := blocksFrom_of_header hname hheader index
      rw [hblocks]
      constructor
      · rintro ⟨blocks, hmap⟩
        obtain ⟨later, hlater, -⟩ := exists_of_map_eq_ok hmap
        obtain ⟨hnames, -⟩ := ih.1 ⟨later, hlater⟩
        exact ⟨⟨hname, hnames⟩, .inr (.inr ⟨_, _, rfl, hheader⟩)⟩
      · rintro ⟨⟨-, hnames⟩, -⟩
        obtain ⟨later, hlater⟩ : ∃ later, blocksFrom (some ⟨header, []⟩) rest = .ok later :=
          ih.2 ⟨hnames, .inl rfl⟩
        exact ⟨_, by rw [hlater]; rfl⟩
    · obtain ⟨param, -, -, hblocks⟩ := blocksFrom_of_parameter hname hheader index
      cases unfinished with
      | none =>
        rw [blocksFrom_of_orphan hname hheader]
        constructor
        · rintro ⟨blocks, hblocks⟩
          cases hblocks
        · rintro ⟨-, hopen | hnil | ⟨first, others, heq, hfirst⟩⟩
          · cases hopen
          · cases hnil
          · obtain ⟨rfl, -⟩ := List.cons.inj heq
            exact absurd hfirst hheader
      | some block =>
        rw [hblocks, ih]
        constructor
        · rintro ⟨hnames, -⟩
          exact ⟨⟨hname, hnames⟩, .inl rfl⟩
        · rintro ⟨⟨-, hnames⟩, -⟩
          exact ⟨hnames, .inl rfl⟩

/-! ## The first line that is wrong -/

/-- **What is wrong with a line** that the lines `before` precede: it has no name, or it is a
parameter and no header precedes it. -/
inductive Offends (before : List (Nat × Text)) : Nat × Text → ScriptError → Prop where
  | nameless {index : Nat} {line : Text} (h : lineName line = []) :
    Offends before (index, line) (.emptyName index)
  | orphan {index : Nat} {line : Text} (hname : lineName line ≠ []) (hheader : ¬ BeginsBlock line)
    (hbefore : ∀ earlier ∈ before, ¬ BeginsBlock earlier.2) :
    Offends before (index, line) (.malformedLine index line orphanMessage)

/-- **The error of the first line that is wrong,** of lines that the lines `before` precede. -/
inductive FirstOffence : (before lines : List (Nat × Text)) → ScriptError → Prop where
  | here {before : List (Nat × Text)} {entry : Nat × Text} {error : ScriptError}
    (h : Offends before entry error) (rest : List (Nat × Text)) :
    FirstOffence before (entry :: rest) error
  | later {before : List (Nat × Text)} {entry : Nat × Text} {rest : List (Nat × Text)}
    {error : ScriptError} (hright : ∀ error, ¬ Offends before entry error)
    (h : FirstOffence (before ++ [entry]) rest error) : FirstOffence before (entry :: rest) error

variable {before : List (Nat × Text)} {error error' : ScriptError}

/-- A line is wrong in one way only. -/
theorem Offends.unique {entry : Nat × Text} (h : Offends before entry error)
    (h' : Offends before entry error') : error = error' := by
  cases h with
  | nameless hnameless =>
    cases h' with
    | nameless => rfl
    | orphan hname => exact absurd hnameless hname
  | orphan hname =>
    cases h' with
    | nameless hnameless => exact absurd hnameless hname
    | orphan => rfl

/-- A line that is wrong is the first one. -/
theorem Offends.firstOffence_iff {entry : Nat × Text} (h : Offends before entry error)
    (rest : List (Nat × Text)) : FirstOffence before (entry :: rest) error' ↔ error = error' := by
  constructor
  · intro hfirst
    cases hfirst with
    | here hhere => exact h.unique hhere
    | later hright => exact absurd h (hright error)
  · rintro rfl
    exact .here h rest

/-- After a line that is right the first one is among the others. -/
theorem firstOffence_cons_iff {entry : Nat × Text} (h : ∀ error, ¬ Offends before entry error)
    (rest : List (Nat × Text)) :
    FirstOffence before (entry :: rest) error ↔ FirstOffence (before ++ [entry]) rest error := by
  constructor
  · intro hfirst
    cases hfirst with
    | here hhere => exact absurd hhere (h error)
    | later _ hlater => exact hlater
  · exact .later h

/-- A line with a name is right where it begins a block or a header precedes it. -/
theorem not_offends {index : Nat} {line : Text} (hname : lineName line ≠ [])
    (hheader : BeginsBlock line ∨ ∃ earlier ∈ before, BeginsBlock earlier.2)
    (error : ScriptError) : ¬ Offends before (index, line) error := by
  intro h
  cases h with
  | nameless hnameless => exact hname hnameless
  | orphan _ hparameter hbefore =>
    rcases hheader with hheader | ⟨earlier, hmem, hearlier⟩
    · exact hparameter hheader
    · exact hbefore earlier hmem hearlier

/-- **Reading fails with the error of the first line that is wrong.** A block is open exactly when
a header has been read. -/
theorem blocksFrom_eq_error_iff {lines : List (Nat × Text)}
    (hopen : unfinished.isSome ↔ ∃ earlier ∈ before, BeginsBlock earlier.2) :
    blocksFrom unfinished lines = .error error ↔ FirstOffence before lines error := by
  induction lines generalizing unfinished before with
  | nil =>
    constructor
    · intro h
      cases h
    · intro h
      cases h
  | cons entry rest ih =>
    obtain ⟨index, line⟩ := entry
    by_cases hname : lineName line = []
    · rw [blocksFrom_of_nameless hname, (Offends.nameless hname).firstOffence_iff,
        Except.error.injEq]
    by_cases hheader : BeginsBlock line
    · obtain ⟨header, -, -, hblocks⟩ := blocksFrom_of_header hname hheader index
      have hopened : (some (⟨header, []⟩ : Block)).isSome ↔
          ∃ earlier ∈ before ++ [(index, line)], BeginsBlock earlier.2 :=
        ⟨fun _ => ⟨(index, line), by simp, hheader⟩, fun _ => rfl⟩
      rw [hblocks, map_eq_error_iff, ih hopened,
        firstOffence_cons_iff (not_offends hname (.inl hheader))]
    · obtain ⟨param, -, -, hblocks⟩ := blocksFrom_of_parameter hname hheader index
      cases unfinished with
      | none =>
        have hbefore : ∀ earlier ∈ before, ¬ BeginsBlock earlier.2 := by
          intro earlier hmem hearlier
          cases hopen.2 ⟨earlier, hmem, hearlier⟩
        rw [blocksFrom_of_orphan hname hheader,
          (Offends.orphan hname hheader hbefore).firstOffence_iff, Except.error.injEq]
      | some block =>
        obtain ⟨earlier, hmem, hearlier⟩ := hopen.1 rfl
        have hopened : (some (block.push param)).isSome ↔
            ∃ earlier ∈ before ++ [(index, line)], BeginsBlock earlier.2 :=
          ⟨fun _ => ⟨earlier, List.mem_append_left _ hmem, hearlier⟩, fun _ => rfl⟩
        rw [hblocks, ih hopened,
          firstOffence_cons_iff (not_offends hname (.inr ⟨earlier, hmem, hearlier⟩))]

/-! ## Scripts -/

/-- **Parsing keeps every line once, in order, in the block of the header before it.**

A source is a script exactly when each line with a content has a name and the first of them, if
there is one, is a header. Then the directives of the blocks, headers and parameters in order, are
those of the lines with their numbers, and each block is a header with parameters under it.
Otherwise the error is that of the first line that is wrong. -/
theorem ofSource_groups (source : Text) :
    ((∃ script, ofSource source = .ok script) ↔
      (∀ entry ∈ contentLines source, lineName entry.2 ≠ []) ∧
        (contentLines source = [] ∨
          ∃ first rest, contentLines source = first :: rest ∧ BeginsBlock first.2)) ∧
    (∀ script, ofSource source = .ok script →
      script.directives.map Except.ok =
          (contentLines source).map (fun entry => Directive.ofLine entry.2 entry.1) ∧
        ∀ block ∈ script.blocks, block.Grouped) ∧
    (∀ error, ofSource source = .error error ↔
      FirstOffence [] (contentLines source) error) := by
  rw [← numberedLines_eq]
  refine ⟨?_, ?_, ?_⟩
  · have hblocks := @exists_blocksFrom_eq_ok_iff none (numberedLines source)
    simp only [Option.isSome_none, Bool.false_eq_true, false_or] at hblocks
    rw [← hblocks]
    constructor
    · rintro ⟨script, hscript⟩
      obtain ⟨blocks, hok, -⟩ := exists_of_map_eq_ok hscript
      exact ⟨blocks, hok⟩
    · rintro ⟨blocks, hok⟩
      exact ⟨⟨blocks⟩, by rw [ofSource, hok]; rfl⟩
  · intro script hscript
    obtain ⟨blocks, hok, rfl⟩ := exists_of_map_eq_ok hscript
    have hnone : ∀ block ∈ (none : Option Block), block.Grouped := by
      intro block hblock
      cases hblock
    exact ⟨directives_of_blocksFrom hok, grouped_of_blocksFrom hnone hok⟩
  · intro error
    have hopen : (none : Option Block).isSome ↔
        ∃ earlier ∈ ([] : List (Nat × Text)), BeginsBlock earlier.2 := by
      simp
    rw [ofSource, map_eq_error_iff, blocksFrom_eq_error_iff hopen]

end Script

end MapScript
