/-
Expressions stay readable with the fractions.

The reader that inserts the fractions may be mistaken about comments and strings, and then they come
to stand in a string, in a comment, or inside of a run. What never changes is the outline of the
pieces: which of them are strings, runs, blanks, and which marks (`outline_piecesIn`). For a fraction
follows a digit, and it is itself neither quote nor mark nor blank. And whether pieces can be read
as tokens depends on their marks only (`isOk_tokensOf_of_outline`): a mark that cannot be read is
half of a connective.

Together with what becomes of the tokens this settles what the fractions do to an expression
(`tokenize_markIntegers`).
-/
import MapScript.Proofs.Literals

set_option autoImplicit false

namespace MapScript.Expr

open Number (IsSign)

/-! ## Outlines -/

/-- A piece without its text, if it is no mark. -/
def Piece.bare : Piece → Piece
  | .run _ => .run []
  | .quoted _ => .quoted []
  | .mark c => .mark c
  | .blank => .blank

/-- What there is to be seen of pieces without their texts. -/
def outline (ps : List Piece) : List Piece := ps.map Piece.bare

/-- An outline behind a part of a run. -/
def openRun : List Piece → List Piece
  | .run text :: ps => .run text :: ps
  | ps => .run [] :: ps

theorem openRun_openRun (ps : List Piece) : openRun (openRun ps) = openRun ps := by
  rw [openRun.eq_def ps]
  split <;> rfl

theorem outline_consRun (c : Char) (ps : List Piece) :
    outline (Piece.consRun c ps) = openRun (outline ps) := by
  match ps with
  | [] => rfl
  | .run _ :: _ => rfl
  | .quoted _ :: _ => rfl
  | .mark _ :: _ => rfl
  | .blank :: _ => rfl

theorem outline_fraction (ps : List Piece) :
    outline (joinRun fraction ps) = openRun (outline ps) := by
  change outline (Piece.consRun '.' (Piece.consRun '0' ps)) = _
  rw [outline_consRun, outline_consRun, openRun_openRun]

/-! ## The marked text -/

/-- With the fractions that are inserted from any place on, the text has the outline it had. Only
among digits a run that has been begun is needed for the fraction. -/
def SameOutline : Context → Text → Prop
  | .code, text => ∀ place ps, piecesIn .code text = .ok ps →
      ∃ ps', piecesIn .code (markIntegersFrom place text) = .ok ps' ∧
        openRun (outline ps') = openRun (outline ps) ∧
        (place ≠ .digits → outline ps' = outline ps)
  | .string read, text => ∀ place read' ps, piecesIn (.string read) text = .ok ps →
      ∃ ps', piecesIn (.string read') (markIntegersFrom place text) = .ok ps' ∧
        outline ps' = outline ps
  | context, text => ∀ place ps, piecesIn context text = .ok ps →
      ∃ ps', piecesIn context (markIntegersFrom place text) = .ok ps' ∧ outline ps' = outline ps

/-- A fraction in front of the pieces. -/
theorem sameOutline_fraction {place : Place} {P : Prop} [Decidable P] {marked : Text}
    {ps ps' : List Piece} (hP : P → place = .digits) (hmarked : piecesIn .code marked = .ok ps')
    (houtline : outline ps' = outline ps) :
    ∃ ps', piecesIn .code ((if P then fraction else []) ++ marked) = .ok ps' ∧
      openRun (outline ps') = openRun (outline ps) ∧
      (place ≠ .digits → outline ps' = outline ps) := by
  by_cases h : P
  · refine ⟨joinRun fraction ps', ?_, ?_, fun hplace => absurd (hP h) hplace⟩
    · rw [if_pos h, piecesIn_code_append isRunChar_of_mem_fraction, hmarked]
      rfl
    · rw [outline_fraction, openRun_openRun, houtline]
  · refine ⟨ps', ?_, by rw [houtline], fun _ => houtline⟩
    rwa [if_neg h, List.nil_append]

theorem digits_of_endsBefore {place : Place} {c : Char} (h : place.endsBefore c = true) :
    place = .digits := by
  rw [Place.endsBefore, Bool.and_eq_true, beq_iff_eq] at h
  exact h.1

/-- A fraction in a string is text. -/
theorem piecesIn_string_fraction (P : Prop) [Decidable P] (read text : Text) :
    ∃ read', piecesIn (.string read) ((if P then fraction else []) ++ text) =
      piecesIn (.string read') text := by
  split
  · exact ⟨'0' :: '.' :: read, rfl⟩
  · exact ⟨read, rfl⟩

/-- **The beginning of a comment.** A fraction may come to stand in front of it, but none within
it. -/
theorem sameOutline_comment {context : Context} {c : Char} {rest : Text}
    (hbegins : ∀ text, piecesIn .code ('/' :: c :: text) = piecesIn context text)
    (h : ∀ place ps, piecesIn context rest = .ok ps →
      ∃ ps', piecesIn context (markIntegersFrom place rest) = .ok ps' ∧ outline ps' = outline ps) :
    SameOutline .code ('/' :: c :: rest) := by
  intro place ps hps
  rw [hbegins] at hps
  obtain ⟨ps', hps', houtline⟩ := h ((place.after '/').after c) ps hps
  rw [markIntegersFrom, markIntegersFrom_cons _ _ _ (after_ne_digits place rfl)]
  exact sameOutline_fraction digits_of_endsBefore ((hbegins _).trans hps') houtline

/-- **A mark or a blank.** -/
theorem sameOutline_single {c : Char} {rest : Text} (hopen : opensComment c rest = false)
    (hquote : c ≠ '"') (hc : isRunChar c = false) (h : SameOutline .code rest) :
    SameOutline .code (c :: rest) := by
  intro place ps hps
  have hdigit := isDigit_of_isRunChar hc
  have hopen' := opensComment_markIntegersFrom hdigit place rest
  rw [hopen] at hopen'
  rw [piecesIn_code_single hopen hc hquote] at hps
  obtain ⟨more, hmore, rfl⟩ := map_eq_ok_iff.1 hps
  obtain ⟨more', hmore', -, houtline⟩ := h (place.after c) more hmore
  have hmarked : piecesIn .code (c :: markIntegersFrom (place.after c) rest) =
      .ok (Piece.single c :: more') := by
    rw [piecesIn_code_single hopen' hc hquote, hmore']
    rfl
  rw [markIntegersFrom]
  refine sameOutline_fraction digits_of_endsBefore hmarked ?_
  exact congrArg (List.cons (Piece.single c).bare) (houtline (after_ne_digits place hdigit))

/-- **A character of a run,** with a fraction in front of it or without. -/
theorem sameOutline_run {c : Char} {rest : Text} (hc : isRunChar c = true)
    (h : SameOutline .code rest) : SameOutline .code (c :: rest) := by
  intro place ps hps
  rw [piecesIn_code_run hc] at hps
  obtain ⟨more, hmore, rfl⟩ := map_eq_ok_iff.1 hps
  obtain ⟨more', hmore', houtline, -⟩ := h (place.after c) more hmore
  have hmarked : piecesIn .code (c :: markIntegersFrom (place.after c) rest) =
      .ok (Piece.consRun c more') := by
    rw [piecesIn_code_run hc, hmore']
    rfl
  rw [markIntegersFrom]
  refine sameOutline_fraction digits_of_endsBefore hmarked ?_
  rw [outline_consRun, outline_consRun, houtline]

/-- **A character of a string.** -/
theorem sameOutline_string_cons {c : Char} {read rest : Text} (hc : c ≠ '\\')
    (hquote : c = '"' → SameOutline .code rest)
    (hrest : c ≠ '"' → SameOutline (.string (c :: read)) rest) :
    SameOutline (.string read) (c :: rest) := by
  intro place read' ps hps
  obtain ⟨read₁, hread₁⟩ := piecesIn_string_fraction (place.endsBefore c) read' _
  rw [markIntegersFrom, hread₁, piecesIn_string_cons hc]
  rw [piecesIn_string_cons hc] at hps
  by_cases hend : c = '"'
  · rw [if_pos hend] at hps ⊢
    obtain ⟨more, hmore, rfl⟩ := map_eq_ok_iff.1 hps
    obtain ⟨more', hmore', -, houtline⟩ := hquote hend (place.after c) more hmore
    refine ⟨.quoted read₁.reverse :: more', by rw [hmore']; rfl, ?_⟩
    exact congrArg (List.cons (.quoted [])) (houtline (after_ne_digits place (by rw [hend]; rfl)))
  · rw [if_neg hend] at hps ⊢
    exact hrest hend (place.after c) _ ps hps

/-- **The outline of the pieces stays.** -/
theorem outline_piecesIn (context : Context) (text : Text) : SameOutline context text := by
  fun_induction piecesIn context text with
  -- the end of the text, which is refused in a block comment and in a string
  | case1 =>
    intro place ps hps
    cases hps
    have hnone : piecesIn .code [] = .ok [] := rfl
    have hsame : outline [] = outline [] := rfl
    rw [markIntegersFrom]
    simpa using sameOutline_fraction id hnone hsame
  | case2 =>
    intro place ps hps
    cases hps
    have hmarked := piecesIn_lineComment_fraction (place = .digits) []
    rw [List.append_nil] at hmarked
    rw [markIntegersFrom, hmarked]
    exact ⟨[], rfl, rfl⟩
  | case3 =>
    intro place ps hps
    cases hps
  | case4 | case11 =>
    intro place read' ps hps
    cases hps
  -- a comment begins
  | case5 rest ih => exact sameOutline_comment (fun _ => rfl) ih
  | case6 rest ih => exact sameOutline_comment (fun _ => rfl) ih
  -- a string begins
  | case7 rest _ _ ih =>
    intro place ps hps
    obtain ⟨ps', hps', houtline⟩ := ih (place.after '"') [] ps hps
    rw [markIntegersFrom]
    exact sameOutline_fraction digits_of_endsBefore hps' houtline
  -- a mark, a blank, or a character of a run
  | case8 c rest hline hblock hquote hmark ih =>
    have hc := isRunChar_eq_false_iff.2 (.inr (.inl hmark))
    exact sameOutline_single (opensComment_eq_false hline hblock) hquote hc ih
  | case9 c rest hline hblock hquote _ hblank ih =>
    have hc := isRunChar_eq_false_iff.2 (.inr (.inr hblank))
    exact sameOutline_single (opensComment_eq_false hline hblock) hquote hc ih
  | case10 c rest _ _ hquote hmark hblank ih =>
    exact sameOutline_run (isRunChar_of_ne hquote hmark hblank) ih
  -- an escape in a string, and one that is refused
  | case12 read c rest hescape ih =>
    intro place read' ps hps
    rw [piecesIn, if_pos hescape] at hps
    obtain ⟨read₁, hread₁⟩ := piecesIn_string_fraction (place.endsBefore '\\') read' _
    obtain ⟨ps', hps', houtline⟩ := ih ((place.after '\\').after c) (c :: read₁) ps hps
    refine ⟨ps', ?_, houtline⟩
    rw [markIntegersFrom, hread₁, markIntegersFrom_cons _ _ _ (after_ne_digits place rfl), piecesIn,
      if_pos hescape, hps']
  | case13 read c rest hescape =>
    intro place read' ps hps
    rw [piecesIn, if_neg hescape] at hps
    cases hps
  -- the quote that ends a string, and any other character of one
  | case14 read rest _ _ ih =>
    exact sameOutline_string_cons (by decide) (fun _ => ih) fun hquote => absurd rfl hquote
  | case15 read c rest hlast hescape hquote ih =>
    have hc := ne_backslash hlast hescape
    exact sameOutline_string_cons hc (fun hend => absurd hend hquote) fun _ => ih
  -- a line comment: the end of its line, and any other character
  | case16 rest ih =>
    intro place ps hps
    obtain ⟨ps', hps', -, houtline⟩ := ih (place.after '\n') ps hps
    refine ⟨ps', ?_, houtline (after_ne_digits place rfl)⟩
    rw [markIntegersFrom, piecesIn_lineComment_fraction, piecesIn, if_pos rfl]
    exact hps'
  | case17 c rest hc ih =>
    intro place ps hps
    rw [piecesIn, if_neg hc] at hps
    rw [markIntegersFrom, piecesIn_lineComment_fraction, piecesIn, if_neg hc]
    exact ih (place.after c) ps hps
  -- a block comment: its end mark, and any other character
  | case18 rest ih =>
    intro place ps hps
    obtain ⟨ps', hps', -, houtline⟩ := ih ((place.after '*').after '/') ps hps
    refine ⟨ps', ?_, houtline (after_ne_digits (place.after '*') rfl)⟩
    rw [markIntegersFrom, piecesIn_blockComment_fraction,
      markIntegersFrom_cons _ _ _ (after_ne_digits place rfl), piecesIn]
    exact hps'
  | case19 c rest hend ih =>
    intro place ps hps
    obtain ⟨hunmarked, hmarked⟩ := piecesIn_blockComment_inside place hend
    rw [hunmarked] at hps
    rw [hmarked]
    exact ih (place.after c) ps hps

/-! ## Tokens from outlines -/

/-- A change of the tokens makes no error and no success. -/
theorem isOk_map {α β : Type} (f : α → β) (result : Except Error α) :
    (result.map f).isOk = result.isOk := by
  cases result <;> rfl

theorem exists_of_isOk {α : Type} {result : Except Error α} (h : result.isOk = true) :
    ∃ value, result = .ok value := by
  cases result with
  | error error => cases h
  | ok value => exact ⟨value, rfl⟩

/-- **A run is read whatever it is,** if what follows it is. -/
theorem isOk_tokensOf_run {run : Text} {rest : List Piece}
    (hread : ∀ piece ∈ Piece.run run :: rest, piece.IsRead) :
    (tokensOf (.run run :: rest)).isOk = (tokensOf rest).isOk := by
  obtain ⟨hrun, hrest⟩ := List.forall_mem_cons.1 hread
  cases hname : runToken? run with
  | some token => rw [tokensOf_literal hname, isOk_map]
  | none =>
    by_cases hjoins : Joins run rest
    · obtain ⟨c, third, more, rfl, hc, hsome⟩ := hjoins
      obtain ⟨x, hx⟩ := Option.isSome_iff_exists.1 hsome
      obtain ⟨digits, rfl, hdigits⟩ := isDigits_of_joined hrun hc (hrest third (by simp)) hx
      obtain ⟨sign, -, hsign⟩ := tokensOf_sign hc
      obtain ⟨token, htoken⟩ := Option.ne_none_iff_exists'.1 (runToken?_ne_none_of_isDigits hdigits)
      rw [tokensOf_signed hname hc hx, isOk_map, hsign _ (by simp), isOk_map,
        tokensOf_literal htoken, isOk_map]
    · rw [tokensOf_name hname hjoins, isOk_map]

theorem bare_eq_mark_iff {piece : Piece} {c : Char} : piece.bare = .mark c ↔ piece = .mark c := by
  cases piece <;> simp [Piece.bare]

/-- Marks show in the outline. -/
theorem of_outline_eq_marks {ps more : List Piece} (marks : Text)
    (h : outline ps = outline (marks.map Piece.mark ++ more)) :
    ∃ more', ps = marks.map Piece.mark ++ more' ∧ outline more' = outline more := by
  induction marks generalizing ps with
  | nil => exact ⟨ps, rfl, h⟩
  | cons c marks ih =>
    obtain ⟨piece, rest, rfl, hpiece, hrest⟩ := List.map_eq_cons_iff.1 h
    obtain ⟨more', rfl, hmore'⟩ := ih hrest
    exact ⟨more', by rw [bare_eq_mark_iff.1 hpiece]; rfl, hmore'⟩

theorem head?_of_outline {ps ps' : List Piece} {c : Char} (houtline : outline ps' = outline ps)
    (h : ps'.head? = some (.mark c)) : ps.head? = some (.mark c) := by
  obtain ⟨rest', rfl⟩ := List.head?_eq_some_iff.1 h
  obtain ⟨more, rfl, -⟩ := of_outline_eq_marks [c] houtline.symm
  rfl

/-- **Pieces of one outline are read,** or they are not. -/
theorem isOk_tokensOf_of_outline {ps ps' : List Piece} (hread : ∀ piece ∈ ps, piece.IsRead)
    (hread' : ∀ piece ∈ ps', piece.IsRead) (houtline : outline ps' = outline ps)
    (h : (tokensOf ps).isOk = true) : (tokensOf ps').isOk = true := by
  induction hlength : ps.length using Nat.strong_induction_on generalizing ps ps' with
  | _ length ih =>
    subst hlength
    replace ih {rest rest' : List Piece} (hlt : rest.length < ps.length)
      (hrest : ∀ piece ∈ rest, piece.IsRead) (hrest' : ∀ piece ∈ rest', piece.IsRead)
      (houtline : outline rest' = outline rest) (h : (tokensOf rest).isOk = true) :
      (tokensOf rest').isOk = true := ih _ hlt hrest hrest' houtline h rfl
    cases ps with
    | nil =>
      obtain rfl := List.map_eq_nil_iff.1 houtline
      exact h
    | cons piece rest =>
      have hrest := (List.forall_mem_cons.1 hread).2
      have hlt : rest.length < (piece :: rest).length := Nat.lt_succ_self _
      cases piece with
      | mark c =>
        obtain ⟨ts, hts⟩ := exists_of_isOk h
        obtain ⟨marks, token, more, hps, hne, -, hforms⟩ := exists_forms hts
        have hlt := length_lt_of_marks hne hps
        rw [hps] at hread h houtline
        obtain ⟨more', rfl, hmore'⟩ := of_outline_eq_marks marks houtline
        rw [hforms more fun _ => id, isOk_map] at h
        rw [hforms more' ?_, isOk_map]
        · have hrest' := (List.forall_mem_append.1 hread').2
          exact ih hlt (List.forall_mem_append.1 hread).2 hrest' hmore' h
        · exact fun d => head?_of_outline hmore'
      | run run =>
        obtain ⟨piece', rest', rfl, hpiece, hsame⟩ := List.map_eq_cons_iff.1 houtline
        have hrest' := (List.forall_mem_cons.1 hread').2
        cases piece' <;> cases hpiece
        rw [isOk_tokensOf_run hread] at h
        rw [isOk_tokensOf_run hread']
        exact ih hlt hrest hrest' hsame h
      | quoted text =>
        obtain ⟨piece', rest', rfl, hpiece, hsame⟩ := List.map_eq_cons_iff.1 houtline
        have hrest' := (List.forall_mem_cons.1 hread').2
        cases piece' <;> cases hpiece
        rw [tokensOf, isOk_map] at h ⊢
        exact ih hlt hrest hrest' hsame h
      | blank =>
        obtain ⟨piece', rest', rfl, hpiece, hsame⟩ := List.map_eq_cons_iff.1 houtline
        have hrest' := (List.forall_mem_cons.1 hread').2
        cases piece' <;> cases hpiece
        rw [tokensOf] at h ⊢
        exact ih hlt hrest hrest' hsame h

/-! ## What the fractions do to an expression -/

/-- Whether an expression writes a literal that the fractions do not reach: a hexadecimal integer,
or a number with a sign in its power of ten. -/
def WritesUnreached (text : Text) : Prop := ∃ ps, pieces text = .ok ps ∧ HasUnreached ps

/-- **What the fractions do to an expression that can be read.** It can be read with them. And where
the two readers see the same, they make doubles of the integers and change no other token, exactly
if the expression writes no hexadecimal integer and no number with a sign in its power of ten. -/
theorem tokenize_markIntegers {text : Text} {ts : List Token} (h : tokenize text = .ok ts) :
    ∃ ts', tokenize (markIntegers text) = .ok ts' ∧
      (aligned (.code .gap) text = true →
        (ts' = ts.map Token.asFloat ↔ ¬ WritesUnreached text)) := by
  obtain ⟨ps, hps, hts⟩ : ∃ ps, pieces text = .ok ps ∧ tokensOf ps = .ok ts := by
    rw [tokenize] at h
    cases hps : pieces text with
    | error error =>
      rw [hps] at h
      cases h
    | ok ps =>
      rw [hps] at h
      exact ⟨ps, rfl, h⟩
  obtain ⟨ps', hps', -, houtline⟩ := outline_piecesIn .code text .gap ps hps
  have hok : (tokensOf ps').isOk = true :=
    isOk_tokensOf_of_outline (isRead_of_piecesIn hps) (isRead_of_piecesIn hps') (houtline (by decide))
      (by rw [hts]; rfl)
  obtain ⟨ts', hts'⟩ := exists_of_isOk hok
  have hmarked : tokenize (markIntegers text) = .ok ts' := by
    change pieces (markIntegers text) = .ok ps' at hps'
    rw [tokenize, hps']
    exact hts'
  have hunreached : WritesUnreached text ↔ HasUnreached ps := by
    constructor
    · rintro ⟨_, hsame, h⟩
      obtain rfl := Except.ok.inj (hps.symm.trans hsame)
      exact h
    · exact fun h => ⟨ps, hps, h⟩
  refine ⟨ts', hmarked, fun haligned => ?_⟩
  rw [hunreached]
  exact tokens_of_aligned haligned hps hts hmarked

/-- So of the digits in `"a1" + x2/10` only the last ones become a double. -/
theorem tokenize_markIntegers_mixed :
    tokenize "\"a1\" + x2/10".toList =
        .ok [.string "a1".toList, .sign .plus, .name "x2".toList, .sign .slash, .int 10] ∧
      tokenize (markIntegers "\"a1\" + x2/10".toList) =
        .ok [.string "a1".toList, .sign .plus, .name "x2".toList, .sign .slash,
          .float (Float.ofInt 10)] := by
  have htokens : tokenize "\"a1\" + x2/10".toList =
      .ok [.string "a1".toList, .sign .plus, .name "x2".toList, .sign .slash, .int 10] := rfl
  have hpieces : pieces "\"a1\" + x2/10".toList =
      .ok [.quoted "a1".toList, .blank, .mark '+', .blank, .run "x2".toList, .mark '/',
        .run "10".toList] := rfl
  have hreached : ¬ WritesUnreached "\"a1\" + x2/10".toList := by
    rintro ⟨ps, hps, h⟩
    obtain rfl := Except.ok.inj (hpieces.symm.trans hps)
    rcases h with (hhex | ⟨-, sign, third, more, heq, hsign, -⟩) | (hhex | ⟨hname, -⟩) | h
    · cases hhex
    · -- the name is followed by a mark, which is no sign of a power of ten
      cases heq
      exact absurd hsign (by decide)
    · cases hhex
    · cases hname
    · exact h
  obtain ⟨ts', hts', h⟩ := tokenize_markIntegers htokens
  refine ⟨htokens, ?_⟩
  rw [hts', (h rfl).2 hreached]
  rfl

/-- And `1e-3`, which is a double, comes apart: its exponent is no integer, but it is marked as if
it were one. -/
theorem tokenize_markIntegers_signed :
    ∃ x ts', tokenize "1e-3".toList = .ok [.float x] ∧
      tokenize (markIntegers "1e-3".toList) = .ok ts' ∧
      ts' ≠ [Token.float x].map Token.asFloat :=
  ⟨_, [.name "1e".toList, .sign .minus, .float _], rfl, rfl, nofun⟩

end MapScript.Expr
