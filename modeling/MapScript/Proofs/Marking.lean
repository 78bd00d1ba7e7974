/-
What the fractions make of the pieces of an expression.

Two readers go over an expression. One puts its characters together to pieces and knows comments,
blanks and marks; the other inserts the fractions and knows only in which of five places it stands.
They are followed side by side, and as long as both see the same (`aligned`), a fraction comes to
stand at the end of each run of digits and nowhere else (`pieces_markIntegers`). What they may see
differently is a comment, whose quotes the second reader takes for those of strings, and a
character that belongs to a run for one reader and to no word for the other, or the other way
around. Such a character does no harm except next to digits.

The induction is on the text. What it carries along is the part of a run that has been read
(`Fits`): the second reader is among the digits of a bare literal exactly if this part is digits.
-/
import MapScript.Proofs.Numerals

set_option autoImplicit false

namespace MapScript.Expr

/-! ## Two views of a character -/

/-- A character that belongs to runs. -/
def isRunChar (c : Char) : Bool := c != '"' && !isMark c && !Text.isBlank c

/-- A character that belongs to runs and not to words, or to words and not to runs. -/
def isAmbiguous (c : Char) : Bool := isWordChar c != isRunChar c

/-- All other characters end a run. -/
theorem isRunChar_eq_false_iff {c : Char} :
    isRunChar c = false ↔ c = '"' ∨ isMark c = true ∨ Text.isBlank c = true := by
  simp [isRunChar, imp_iff_not_or, or_assoc]

theorem isRunChar_of_ne {c : Char} (hquote : c ≠ '"') (hmark : ¬ isMark c = true)
    (hblank : ¬ Text.isBlank c = true) : isRunChar c = true := by
  rw [← Bool.not_eq_false, isRunChar_eq_false_iff]
  exact not_or.2 ⟨hquote, not_or.2 ⟨hmark, hblank⟩⟩

/-- No mark is a digit. -/
theorem isMark_of_isDigit {c : Char} (h : c.isDigit = true) : isMark c = false := by
  have hmarks : ∀ mark ∈ "+-*/%^(),;=!><&|".toList, mark.isDigit = false := by simp
  rw [Bool.eq_false_iff]
  intro hmark
  rw [hmarks c (List.contains_iff_mem.1 hmark)] at h
  cases h

/-- Digits are no blanks. -/
theorem isBlank_of_isDigit {c : Char} (h : c.isDigit = true) : Text.isBlank c = false := by
  have hbound := Char.isDigit_iff_toNat.1 h
  simp only [Text.isBlank, Text.blankRanges, CodeRange.anyContains, CodeRange.ofPairs,
    CodeRange.contains, List.map, List.any]
  simp at hbound
  simp
  omega

/-- **Digits belong to runs,** so that no digit ends one, and they belong to words. -/
theorem isDigit_of_isRunChar {c : Char} (h : isRunChar c = false) : c.isDigit = false := by
  rw [Bool.eq_false_iff]
  intro hdigit
  rcases isRunChar_eq_false_iff.1 h with rfl | hmark | hblank
  · exact absurd hdigit (by decide)
  · rw [isMark_of_isDigit hdigit] at hmark
    cases hmark
  · rw [isBlank_of_isDigit hdigit] at hblank
    cases hblank

/-- The fraction goes on with the run that it follows. -/
theorem isRunChar_of_mem_fraction : ∀ c ∈ fraction, isRunChar c = true := by
  simp [fraction, isRunChar, isMark, Text.isBlank, Text.blankRanges, CodeRange.anyContains,
    CodeRange.ofPairs, CodeRange.contains]

theorem isWordChar_of_isDigit {c : Char} (h : c.isDigit = true) : isWordChar c = true := by
  rw [isWordChar, Char.isAlphanum, h]
  simp

/-! ## Comments -/

/-- Whether a comment begins with the character `c` before a text. -/
def opensComment (c : Char) (rest : Text) : Bool :=
  c == '/' && (rest.head? == some '/' || rest.head? == some '*')

/-- Whether a text begins with a digit or with a comment. -/
def touches : Text → Bool
  | [] => false
  | c :: rest => c.isDigit || opensComment c rest

theorem opensComment_eq_false {c : Char} {rest : Text}
    (hline : ∀ more, c = '/' → rest = '/' :: more → False)
    (hblock : ∀ more, c = '/' → rest = '*' :: more → False) : opensComment c rest = false := by
  rw [Bool.eq_false_iff]
  intro hopen
  rw [opensComment, Bool.and_eq_true, Bool.or_eq_true, beq_iff_eq, beq_iff_eq, beq_iff_eq] at hopen
  obtain ⟨hc, hhead | hhead⟩ := hopen
  · obtain ⟨more, hrest⟩ := List.head?_eq_some_iff.1 hhead
    exact hline more hc hrest
  · obtain ⟨more, hrest⟩ := List.head?_eq_some_iff.1 hhead
    exact hblock more hc hrest

/-- The pieces of a text that does not begin with a comment. -/
theorem piecesIn_code_cons {c : Char} {rest : Text} (h : opensComment c rest = false) :
    piecesIn .code (c :: rest) =
      if c = '"' then piecesIn (.string []) rest
      else if isMark c then (piecesIn .code rest).map (.mark c :: ·)
      else if Text.isBlank c then (piecesIn .code rest).map (.blank :: ·)
      else (piecesIn .code rest).map (Piece.consRun c) := by
  rw [piecesIn]
  · rintro more rfl rfl
    cases h
  · rintro more rfl rfl
    cases h

/-- The piece of a character that stands for itself, a mark or a blank. -/
def Piece.single (c : Char) : Piece := if isMark c then .mark c else .blank

theorem piecesIn_code_single {c : Char} {rest : Text} (hopen : opensComment c rest = false)
    (hc : isRunChar c = false) (hquote : c ≠ '"') :
    piecesIn .code (c :: rest) = (piecesIn .code rest).map (Piece.single c :: ·) := by
  rw [piecesIn_code_cons hopen, if_neg hquote, Piece.single]
  split
  · rfl
  · rename_i hmark
    rw [if_pos (((isRunChar_eq_false_iff.1 hc).resolve_left hquote).resolve_left hmark)]

theorem single_ne_run (c : Char) (text : Text) : Piece.single c ≠ .run text := by
  rw [Piece.single]
  split <;> exact nofun

/-- What begins no escape in a string is no backslash. -/
theorem ne_backslash {c : Char} {rest : Text} (hlast : c = '\\' → rest = [] → False)
    (hescape : ∀ d more, c = '\\' → rest = d :: more → False) : c ≠ '\\' := by
  intro hc
  cases rest with
  | nil => exact hlast hc rfl
  | cons d more => exact hescape d more hc rfl

/-- A string goes on, or it ends. -/
theorem piecesIn_string_cons {c : Char} (h : c ≠ '\\') (read rest : Text) :
    piecesIn (.string read) (c :: rest) =
      if c = '"' then (piecesIn .code rest).map (.quoted read.reverse :: ·)
      else piecesIn (.string (c :: read)) rest := by
  rw [piecesIn]
  · exact fun hc => absurd hc h
  · exact fun _ _ hc => absurd hc h

/-- A block comment ends behind its end mark. -/
theorem piecesIn_blockComment_cons (c : Char) (rest : Text) :
    piecesIn .blockComment (c :: rest) =
      if c = '*' ∧ rest.head? = some '/' then piecesIn .code rest.tail
      else piecesIn .blockComment rest := by
  split
  · rename_i h
    obtain ⟨rfl, hrest⟩ := h
    obtain ⟨more, rfl⟩ := List.head?_eq_some_iff.1 hrest
    rw [piecesIn, List.tail_cons]
  · rename_i h
    rw [piecesIn]
    rintro more rfl rfl
    exact h ⟨rfl, rfl⟩

/-! ## Runs in front of pieces -/

/-- A list of pieces that has been changed was there before. -/
theorem map_eq_ok_iff {α β : Type} {f : α → β} {result : Except Error α} {changed : β} :
    result.map f = .ok changed ↔ ∃ value, result = .ok value ∧ f value = changed := by
  cases result with
  | error error => exact ⟨nofun, nofun⟩
  | ok value =>
    constructor
    · exact fun h => ⟨value, rfl, Except.ok.inj h⟩
    · rintro ⟨_, ⟨⟩, rfl⟩
      rfl

/-- The characters of a run in front of pieces. -/
def joinRun (run : Text) (ps : List Piece) : List Piece := run.foldr Piece.consRun ps

theorem joinRun_append (u v : Text) (ps : List Piece) :
    joinRun (u ++ v) ps = joinRun u (joinRun v ps) := List.foldr_append

/-- A run character begins neither with a comment, nor with a string, a mark or a blank. -/
theorem piecesIn_code_run {c : Char} (hc : isRunChar c = true) (rest : Text) :
    piecesIn .code (c :: rest) = (piecesIn .code rest).map (Piece.consRun c) := by
  rw [isRunChar, Bool.and_eq_true, Bool.and_eq_true, bne_iff_ne, Bool.not_eq_true',
    Bool.not_eq_true'] at hc
  obtain ⟨⟨hquote, hmark⟩, hblank⟩ := hc
  have hopen : opensComment c rest = false := by
    rw [opensComment, Bool.and_eq_false_iff]
    refine .inl (beq_eq_false_iff_ne.2 ?_)
    rintro rfl
    exact absurd hmark (by decide)
  rw [piecesIn_code_cons hopen, if_neg hquote, hmark, hblank]
  rfl

/-- The pieces of a run and of what follows it. -/
theorem piecesIn_code_append {run : Text} (hrun : ∀ c ∈ run, isRunChar c = true) (text : Text) :
    piecesIn .code (run ++ text) = (piecesIn .code text).map (joinRun run) := by
  induction run with
  | nil => cases h : piecesIn .code text <;> simp [h, Except.map, joinRun]
  | cons c run ih =>
    obtain ⟨hc, hrest⟩ := List.forall_mem_cons.1 hrun
    rw [List.cons_append, piecesIn_code_run hc, ih hrest]
    cases piecesIn .code text <;> rfl

/-- A run stays as it is where the pieces do not go on with another one. -/
theorem joinRun_of_not_run {u : Text} {ps : List Piece} (hu : u ≠ [])
    (hps : ∀ t more, ps ≠ .run t :: more) : joinRun u ps = .run u :: ps := by
  induction u with
  | nil => exact absurd rfl hu
  | cons c u ih =>
    change Piece.consRun c (joinRun u ps) = _
    by_cases hnil : u = []
    · subst hnil
      change Piece.consRun c ps = _
      rw [Piece.consRun.eq_def]
      split
      · exact absurd rfl (hps _ _)
      · rfl
    · rw [ih hnil]
      rfl

/-- The pieces that are read inside of a string begin with this string. -/
theorem quoted_of_piecesIn_string {read text : Text} {ps : List Piece}
    (h : piecesIn (.string read) text = .ok ps) : ∃ s more, ps = .quoted s :: more := by
  generalize hcontext : Context.string read = context at h
  fun_induction piecesIn context text generalizing read <;> cases hcontext
  -- what is refused, and escapes
  case case4.refl => cases h
  case case11.refl => cases h
  case case12.refl ih => exact ih rfl h
  case case13.refl => cases h
  -- the quote that ends the string, and any other character of it
  case case14.refl =>
    obtain ⟨more, -, rfl⟩ := map_eq_ok_iff.1 h
    exact ⟨_, more, rfl⟩
  case case15.refl ih => exact ih rfl h

/-- What begins with no run character and no comment does not begin with a run. -/
theorem not_run_of_piecesIn {c : Char} {rest : Text} {ps : List Piece}
    (hopen : opensComment c rest = false) (hc : isRunChar c = false)
    (h : piecesIn .code (c :: rest) = .ok ps) : ∀ t more, ps ≠ .run t :: more := by
  by_cases hquote : c = '"'
  · rw [piecesIn_code_cons hopen, if_pos hquote] at h
    obtain ⟨s, more, rfl⟩ := quoted_of_piecesIn_string h
    exact nofun
  · rw [piecesIn_code_single hopen hc hquote] at h
    obtain ⟨more, -, rfl⟩ := map_eq_ok_iff.1 h
    exact fun t _ heq => single_ne_run c t (List.cons.inj heq).1

/-! ## Two readers side by side -/

/-- Where the two readers stand. In a string both know that they are in one. -/
inductive Stand where
  | code (place : Place)
  | string
  | lineComment (place : Place)
  | blockComment (place : Place)
deriving Repr, DecidableEq

/-- **Whether the two readers see the same** in what follows.

* A comment begins in a gap, and behind it the second reader is in a gap again: the quotes in the
  comment are paired.
* An ambiguous character does not follow the digits of a bare literal, and no digit or comment
  follows it. -/
def aligned : Stand → Text → Bool
  | .code _, [] => true
  | .code place, '/' :: '/' :: rest => place == .gap && aligned (.lineComment .gap) rest
  | .code place, '/' :: '*' :: rest => place == .gap && aligned (.blockComment .gap) rest
  | .code place, c :: rest =>
    (!isAmbiguous c || place != .digits && !touches rest) &&
      aligned (if c = '"' then .string else .code (place.after c)) rest
  | .string, [] => true
  | .string, ['\\'] => true
  | .string, '\\' :: _ :: rest => aligned .string rest
  | .string, c :: rest => aligned (if c = '"' then .code .gap else .string) rest
  | .lineComment _, [] => true
  | .lineComment place, c :: rest =>
    if c = '\n' then place.after c == .gap && aligned (.code .gap) rest
    else aligned (.lineComment (place.after c)) rest
  | .blockComment _, [] => true
  | .blockComment place, '*' :: '/' :: rest =>
    (place.after '*').after '/' == .gap && aligned (.code .gap) rest
  | .blockComment place, c :: rest => aligned (.blockComment (place.after c)) rest

/-- What the second reader knows of the run of which `u` has been read. Among the digits of a bare
literal this part is digits. Elsewhere it is not, and it does not become digits nor go on behind a
comment without a character that both see. -/
def Fits (place : Place) (u text : Text) : Prop :=
  match place with
  | .digits => u.IsDigits
  | .word => ¬ u.IsDigits ∧ (u = [] → touches text = false)
  | .gap => ¬ u.IsDigits ∧ (u ≠ [] → touches text = false)
  | .quoted | .escaped => False

theorem not_isDigits_nil : ¬ Text.IsDigits [] := fun h => h.1 rfl

theorem isDigits_append_singleton {u : Text} {c : Char} :
    Text.IsDigits (u ++ [c]) ↔ (u = [] ∨ u.IsDigits) ∧ c.isDigit = true := by
  by_cases hu : u = []
  · subst hu
    simp [Text.IsDigits]
  · simp [Text.IsDigits, hu]

/-- A character that is no digit and no quote ends a literal or a string in no way but one. -/
theorem after_of_not_isDigit {place : Place} {c : Char}
    (hplace : place ≠ .quoted ∧ place ≠ .escaped) (hquote : c ≠ '"') (hc : c.isDigit = false) :
    place.after c = if isWordChar c then .word else .gap := by
  cases place <;> simp_all [Place.after]

section Fits

variable {place : Place} {u rest : Text} {c : Char}

theorem Fits.not_quoted {text : Text} (h : Fits place u text) :
    place ≠ .quoted ∧ place ≠ .escaped := by
  constructor <;> rintro rfl <;> exact h

/-- Exactly in digits a literal is read. -/
theorem Fits.isDigits_iff {text : Text} (h : Fits place u text) :
    u.IsDigits ↔ place = .digits := by
  cases place with
  | digits => exact iff_of_true h rfl
  | gap => exact iff_of_false h.1 nofun
  | word => exact iff_of_false h.1 nofun
  | quoted => exact h.elim
  | escaped => exact h.elim

variable (h : Fits place u (c :: rest))
  (hambiguous : isAmbiguous c = true → place ≠ .digits ∧ touches rest = false)

include h hambiguous

/-- A run goes on. -/
theorem Fits.run (hc : isRunChar c = true) : Fits (place.after c) (u ++ [c]) rest := by
  have hquote : c ≠ '"' := by
    rintro rfl
    exact absurd hc (by decide)
  cases hdigit : c.isDigit with
  | true =>
    have htouches : touches (c :: rest) = true := by rw [touches, hdigit, Bool.true_or]
    cases place with
    | digits =>
      have hafter : Place.digits.after c = .digits := by simp [Place.after, hquote, hdigit]
      rw [hafter]
      exact isDigits_append_singleton.2 ⟨.inr h, hdigit⟩
    | gap =>
      have hafter : Place.gap.after c = .digits := by simp [Place.after, hquote, hdigit]
      have hu : u = [] := by
        by_contra hu
        rw [h.2 hu] at htouches
        cases htouches
      rw [hafter]
      exact isDigits_append_singleton.2 ⟨.inl hu, hdigit⟩
    | word =>
      have hafter : Place.word.after c = .word := by
        simp [Place.after, hquote, isWordChar_of_isDigit hdigit]
      have hu : u ≠ [] := by
        intro hu
        rw [h.2 hu] at htouches
        cases htouches
      rw [hafter]
      refine ⟨fun hdigits => ?_, fun hnil => absurd hnil (by simp)⟩
      rcases (isDigits_append_singleton.1 hdigits).1 with hnil | hdigits
      · exact hu hnil
      · exact h.1 hdigits
    | quoted => exact h.elim
    | escaped => exact h.elim
  | false =>
    have hdigits : ¬ Text.IsDigits (u ++ [c]) := fun hdigits => by
      rw [(isDigits_append_singleton.1 hdigits).2] at hdigit
      cases hdigit
    rw [after_of_not_isDigit h.not_quoted hquote hdigit]
    cases hword : isWordChar c with
    | true => exact ⟨hdigits, fun hnil => absurd hnil (by simp)⟩
    | false => exact ⟨hdigits, fun _ => (hambiguous (by rw [isAmbiguous, hword, hc]; rfl)).2⟩

/-- A run ends, or there was none. -/
theorem Fits.other (hc : isRunChar c = false) (hquote : c ≠ '"') :
    Fits (place.after c) [] rest := by
  rw [after_of_not_isDigit h.not_quoted hquote (isDigit_of_isRunChar hc)]
  cases hword : isWordChar c with
  | true => exact ⟨not_isDigits_nil, fun _ => (hambiguous (by rw [isAmbiguous, hword, hc]; rfl)).2⟩
  | false => exact ⟨not_isDigits_nil, fun hnil => absurd rfl hnil⟩

end Fits

/-! ## The fractions -/

/-- A piece with the fraction, if it is a run of digits. -/
def Piece.withFraction : Piece → Piece
  | .run text => .run (Expr.withFraction text)
  | .quoted text => .quoted text
  | .mark c => .mark c
  | .blank => .blank

theorem withFraction_single (c : Char) : (Piece.single c).withFraction = Piece.single c := by
  rw [Piece.single]
  split <;> rfl

/-- In code, a piece of the marked text is the piece of the text with its fraction, the run included
that has been read in part; in a string or a comment, all pieces that follow are. -/
def Agree : Stand → Text → Prop
  | .code place, text => ∀ ⦃u ps⦄, Fits place u text → piecesIn .code text = .ok ps →
      ∃ ps', piecesIn .code (markIntegersFrom place text) = .ok ps' ∧
        joinRun u ps' = (joinRun u ps).map Piece.withFraction
  | .string, text => ∀ ⦃read ps⦄, piecesIn (.string read) text = .ok ps →
      piecesIn (.string read) (markIntegersFrom .quoted text) = .ok (ps.map Piece.withFraction)
  | .lineComment place, text => ∀ ⦃ps⦄, piecesIn .lineComment text = .ok ps →
      piecesIn .lineComment (markIntegersFrom place text) = .ok (ps.map Piece.withFraction)
  | .blockComment place, text => ∀ ⦃ps⦄, piecesIn .blockComment text = .ok ps →
      piecesIn .blockComment (markIntegersFrom place text) = .ok (ps.map Piece.withFraction)

/-- Only digits lead among digits. -/
theorem after_ne_digits {c : Char} (place : Place) (hc : c.isDigit = false) :
    place.after c ≠ .digits := by
  cases place <;> simp only [Place.after, hc] <;> (repeat' split) <;> simp_all

/-- Nothing is inserted where no digits of a literal end. -/
theorem markIntegersFrom_cons (place : Place) (c : Char) (rest : Text) (h : place ≠ .digits) :
    markIntegersFrom place (c :: rest) = c :: markIntegersFrom (place.after c) rest := by
  have hends : place.endsBefore c = false := by
    rw [Place.endsBefore, beq_eq_false_iff_ne.2 h, Bool.false_and]
  rw [markIntegersFrom, hends]
  rfl

/-- Nothing is inserted in front of a text that is read on elsewhere. -/
theorem head?_markIntegersFrom {place : Place} (h : place ≠ .digits) (text : Text) :
    (markIntegersFrom place text).head? = text.head? := by
  cases text with
  | nil => rw [markIntegersFrom, if_neg h]
  | cons c rest =>
    rw [markIntegersFrom_cons place c rest h]
    rfl

/-- No comment begins with the fractions. -/
theorem opensComment_markIntegersFrom {c : Char} (hc : c.isDigit = false) (place : Place)
    (rest : Text) :
    opensComment c (markIntegersFrom (place.after c) rest) = opensComment c rest := by
  rw [opensComment, head?_markIntegersFrom (after_ne_digits place hc)]
  rfl

/-- Where a run ends, the fraction comes to stand at its end if it is digits. -/
theorem agree_ends {place : Place} {u text marked : Text} {ps : List Piece}
    (hfits : Fits place u text) (hps : ∀ t more, ps ≠ .run t :: more)
    (hmarked : piecesIn .code marked = .ok (ps.map Piece.withFraction)) :
    ∃ ps', piecesIn .code ((if place = .digits then fraction else []) ++ marked) = .ok ps' ∧
      joinRun u ps' = (joinRun u ps).map Piece.withFraction := by
  have hps' : ∀ t more, ps.map Piece.withFraction ≠ .run t :: more := by
    intro t more heq
    obtain ⟨piece, rest, rfl, hpiece, -⟩ := List.map_eq_cons_iff.1 heq
    cases piece with
    | run text => exact hps _ _ rfl
    | quoted text => cases hpiece
    | mark c => cases hpiece
    | blank => cases hpiece
  by_cases hplace : place = .digits
  · have hdigits := hfits.isDigits_iff.2 hplace
    refine ⟨joinRun fraction (ps.map Piece.withFraction), ?_, ?_⟩
    · rw [if_pos hplace, piecesIn_code_append isRunChar_of_mem_fraction, hmarked]
      rfl
    · rw [← joinRun_append, joinRun_of_not_run (by simp [hdigits.1]) hps',
        joinRun_of_not_run hdigits.1 hps, List.map_cons, Piece.withFraction, withFraction,
        if_pos hdigits]
  · refine ⟨ps.map Piece.withFraction, by rwa [if_neg hplace, List.nil_append], ?_⟩
    by_cases hu : u = []
    · subst hu
      rfl
    · rw [joinRun_of_not_run hu hps', joinRun_of_not_run hu hps, List.map_cons,
        Piece.withFraction, withFraction, if_neg (mt hfits.isDigits_iff.1 hplace)]

section Step

variable {place : Place} {c : Char} {rest u : Text} {ps : List Piece}
  (hopen : opensComment c rest = false)
  (hambiguous : isAmbiguous c = true → place ≠ .digits ∧ touches rest = false)
  (hrest : Agree (if c = '"' then .string else .code (place.after c)) rest)
  (hfits : Fits place u (c :: rest)) (hps : piecesIn .code (c :: rest) = .ok ps)

include hambiguous in
/-- Next to the digits of a literal the readers do not differ. -/
theorem endsBefore_eq : place.endsBefore c = (place == .digits && !isRunChar c) := by
  by_cases hplace : place = .digits
  · have hsame : isWordChar c = isRunChar c := by
      by_contra hne
      exact (hambiguous (bne_iff_ne.2 hne)).1 hplace
    rw [Place.endsBefore, hsame]
  · rw [Place.endsBefore, beq_eq_false_iff_ne.2 hplace, Bool.false_and, Bool.false_and]

include hopen hambiguous hrest hfits hps

/-- The pieces from a character on that ends a run. -/
theorem agree_tail (hc : isRunChar c = false) :
    piecesIn .code (c :: markIntegersFrom (place.after c) rest) =
      .ok (ps.map Piece.withFraction) := by
  have hopen' := opensComment_markIntegersFrom (isDigit_of_isRunChar hc) place rest
  rw [hopen] at hopen'
  by_cases hquote : c = '"'
  · have hafter : place.after c = .quoted := by
      obtain ⟨hquoted, hescaped⟩ := hfits.not_quoted
      cases place <;> simp_all [Place.after]
    rw [hafter] at hopen' ⊢
    rw [piecesIn_code_cons hopen, if_pos hquote] at hps
    rw [if_pos hquote] at hrest
    rw [piecesIn_code_cons hopen', if_pos hquote]
    exact hrest hps
  · rw [piecesIn_code_single hopen hc hquote] at hps
    rw [if_neg hquote] at hrest
    obtain ⟨more, hmore, rfl⟩ := map_eq_ok_iff.1 hps
    obtain ⟨_, hmore', rfl⟩ := hrest (hfits.other hambiguous hc hquote) hmore
    rw [piecesIn_code_single hopen' hc hquote, hmore', List.map_cons, withFraction_single]
    rfl

omit hopen in
/-- A character that continues a run. -/
theorem agree_run (hc : isRunChar c = true) :
    ∃ ps', piecesIn .code (c :: markIntegersFrom (place.after c) rest) = .ok ps' ∧
      joinRun u ps' = (joinRun u ps).map Piece.withFraction := by
  have hquote : c ≠ '"' := by
    rintro rfl
    exact absurd hc (by decide)
  rw [if_neg hquote] at hrest
  rw [piecesIn_code_run hc] at hps
  obtain ⟨more, hmore, rfl⟩ := map_eq_ok_iff.1 hps
  obtain ⟨more', hmore', hjoin⟩ := hrest (hfits.run hambiguous hc) hmore
  rw [joinRun_append, joinRun_append] at hjoin
  refine ⟨Piece.consRun c more', ?_, hjoin⟩
  rw [piecesIn_code_run hc, hmore']
  rfl

omit hfits hps in
/-- **One character of code** that begins no comment. -/
theorem agree_code_cons : Agree (.code place) (c :: rest) := by
  intro u ps hfits hps
  rw [markIntegersFrom, endsBefore_eq hambiguous]
  cases hc : isRunChar c with
  | true =>
    have hnone : ¬ (place == .digits && !true) = true := by simp
    rw [if_neg hnone]
    exact agree_run hambiguous hrest hfits hps hc
  | false =>
    have hnotRun := not_run_of_piecesIn hopen hc hps
    have htail := agree_tail hopen hambiguous hrest hfits hps hc
    simpa using agree_ends hfits hnotRun htail

end Step

/-- In a gap nothing has been read of a run. -/
theorem Agree.gap {text : Text} {ps : List Piece} (h : Agree (.code .gap) text)
    (hps : piecesIn .code text = .ok ps) :
    piecesIn .code (markIntegersFrom .gap text) = .ok (ps.map Piece.withFraction) := by
  have hfits : Fits .gap [] text := ⟨not_isDigits_nil, fun hnil => absurd rfl hnil⟩
  obtain ⟨_, hps', rfl⟩ := h hfits hps
  exact hps'

/-- **One character of a string.** -/
theorem agree_string_cons {c : Char} {rest : Text} (hc : c ≠ '\\')
    (hrest : Agree (if c = '"' then .code .gap else .string) rest) : Agree .string (c :: rest) := by
  intro read ps hps
  rw [markIntegersFrom_cons .quoted c rest nofun, piecesIn_string_cons hc]
  rw [piecesIn_string_cons hc] at hps
  by_cases hquote : c = '"'
  · have hafter : Place.quoted.after c = .gap := by simp [Place.after, hquote]
    rw [if_pos hquote] at hps hrest ⊢
    obtain ⟨more, hmore, rfl⟩ := map_eq_ok_iff.1 hps
    rw [hafter, hrest.gap hmore]
    rfl
  · have hafter : Place.quoted.after c = .quoted := by simp [Place.after, hc, hquote]
    rw [if_neg hquote] at hps hrest ⊢
    rw [hafter]
    exact hrest hps

/-- A fraction in a comment leaves nothing behind, as the comment. -/
theorem piecesIn_lineComment_fraction (P : Prop) [Decidable P] (text : Text) :
    piecesIn .lineComment ((if P then fraction else []) ++ text) = piecesIn .lineComment text := by
  split <;> rfl

theorem piecesIn_blockComment_fraction (P : Prop) [Decidable P] (text : Text) :
    piecesIn .blockComment ((if P then fraction else []) ++ text) =
      piecesIn .blockComment text := by
  split <;> rfl

/-- Inside of a block comment the fractions end none. -/
theorem piecesIn_blockComment_inside {c : Char} {rest : Text} (place : Place)
    (hend : ∀ more, c = '*' → rest = '/' :: more → False) :
    piecesIn .blockComment (c :: rest) = piecesIn .blockComment rest ∧
      piecesIn .blockComment (markIntegersFrom place (c :: rest)) =
        piecesIn .blockComment (markIntegersFrom (place.after c) rest) := by
  have hopen : ¬ (c = '*' ∧ rest.head? = some '/') := by
    rintro ⟨hc, hhead⟩
    obtain ⟨more, hrest⟩ := List.head?_eq_some_iff.1 hhead
    exact hend more hc hrest
  have hopen' : ¬ (c = '*' ∧ (markIntegersFrom (place.after c) rest).head? = some '/') := by
    rintro ⟨rfl, hhead⟩
    rw [head?_markIntegersFrom (after_ne_digits place rfl)] at hhead
    exact hopen ⟨rfl, hhead⟩
  rw [markIntegersFrom, piecesIn_blockComment_fraction, piecesIn_blockComment_cons,
    piecesIn_blockComment_cons, if_neg hopen, if_neg hopen']
  exact ⟨rfl, rfl⟩

/-- What begins a comment, where the second reader is in a gap. -/
theorem agree_comment {text : Text} {u : Text} {ps : List Piece}
    (hfits : Fits .gap u text) (htouches : touches text = true)
    (hmarked : piecesIn .code (markIntegersFrom .gap text) = .ok (ps.map Piece.withFraction)) :
    ∃ ps', piecesIn .code (markIntegersFrom .gap text) = .ok ps' ∧
      joinRun u ps' = (joinRun u ps).map Piece.withFraction := by
  have hu : u = [] := by
    by_contra hu
    rw [hfits.2 hu] at htouches
    cases htouches
  subst hu
  exact ⟨_, hmarked, rfl⟩

/-- **The two readers see the same,** whatever text they read. -/
theorem agree_of_aligned {stand : Stand} {text : Text} (h : aligned stand text = true) :
    Agree stand text := by
  fun_induction aligned stand text with
  -- the end of the text, in code
  | case1 place =>
    intro u ps hfits hps
    cases hps
    have hnotRun : ∀ t more, ([] : List Piece) ≠ .run t :: more := nofun
    have hnone : piecesIn .code [] = .ok (List.map Piece.withFraction []) := rfl
    rw [markIntegersFrom]
    simpa using agree_ends hfits hnotRun hnone
  -- a line comment or a block comment begins
  | case2 place rest ih | case3 place rest ih =>
    rw [Bool.and_eq_true, beq_iff_eq] at h
    obtain ⟨rfl, hrest⟩ := h
    intro u ps hfits hps
    exact agree_comment hfits rfl (ih hrest hps)
  -- any other character of code: a quote, a mark, a blank, or one of a run
  | case4 place c rest hline hblock ih =>
    rw [Bool.and_eq_true] at h
    obtain ⟨hsees, hrest⟩ := h
    refine agree_code_cons (opensComment_eq_false hline hblock) (fun hambiguous => ?_) (ih hrest)
    simpa [hambiguous] using hsees
  -- the end of the text in a string, which is refused
  | case5 => exact nofun
  | case6 => exact nofun
  -- an escape in a string
  | case7 c rest ih =>
    intro read ps hps
    have hmarked : markIntegersFrom .quoted ('\\' :: c :: rest) =
        '\\' :: c :: markIntegersFrom .quoted rest := rfl
    rw [hmarked, piecesIn]
    rw [piecesIn] at hps
    split at hps
    · rename_i hescape
      rw [if_pos hescape]
      exact ih h hps
    · cases hps
  -- any other character of a string, the quote that ends it included
  | case8 c rest hlast hescape ih => exact agree_string_cons (ne_backslash hlast hescape) (ih h)
  -- a line comment: the end of the text, the end of its line, and any other character
  | case9 place =>
    intro ps hps
    cases hps
    have hmarked := piecesIn_lineComment_fraction (place = .digits) []
    rw [List.append_nil] at hmarked
    rw [markIntegersFrom, hmarked]
    rfl
  | case10 place rest ih =>
    rw [Bool.and_eq_true, beq_iff_eq] at h
    obtain ⟨hafter, hrest⟩ := h
    intro ps hps
    rw [markIntegersFrom, piecesIn_lineComment_fraction, hafter, piecesIn, if_pos rfl]
    exact (ih hrest).gap hps
  | case11 place c rest hc ih =>
    intro ps hps
    rw [piecesIn, if_neg hc] at hps
    rw [markIntegersFrom, piecesIn_lineComment_fraction, piecesIn, if_neg hc]
    exact ih h hps
  -- a block comment: the end of the text, which is refused, its end mark, and any other character
  | case12 place => exact nofun
  | case13 place rest ih =>
    rw [Bool.and_eq_true, beq_iff_eq] at h
    obtain ⟨hafter, hrest⟩ := h
    intro ps hps
    have hstar := after_ne_digits (c := '*') place rfl
    rw [markIntegersFrom, piecesIn_blockComment_fraction, markIntegersFrom_cons _ _ _ hstar,
      hafter, piecesIn]
    exact (ih hrest).gap hps
  | case14 place c rest hend ih =>
    intro ps hps
    obtain ⟨hunmarked, hmarked⟩ := piecesIn_blockComment_inside place hend
    rw [hunmarked] at hps
    rw [hmarked]
    exact ih h hps

/-- **The marked text has the pieces of the text, each run of digits with its fraction.** -/
theorem pieces_markIntegers {text : Text} {ps : List Piece}
    (h : aligned (.code .gap) text = true) (hps : pieces text = .ok ps) :
    pieces (markIntegers text) = .ok (ps.map Piece.withFraction) :=
  (agree_of_aligned h).gap hps

end MapScript.Expr
