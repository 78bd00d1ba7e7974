/-
What the fractions make of the tokens of an expression.

Where the two readers see the same, the fractions are added to the runs of digits, and this makes
the integers among them doubles of the same value. Two kinds of literals it does not reach. A
hexadecimal integer is a word to the reader that inserts the fractions, and stays an integer. And a
number whose power of ten has a sign is three pieces, of which the last one is digits: with the
fraction it is no power of ten any more, and the number comes apart into a name, a sign and a
double. So the tokens are those of the text with doubles for its integers exactly if the text
writes neither of the two (`tokens_of_aligned`).

`Marked` says token by token what becomes of what; the induction that finds it
(`marked_of_tokensOf`) follows the pieces that are read together to one token.
-/
import MapScript.Proofs.Marking

set_option autoImplicit false

namespace MapScript.Expr

open Number (IsSign)

/-! ## Marks that are read together -/

/-- The marks form the token in front of the pieces, and in front of all others that do not begin
with a mark where these do not. -/
def Forms (marks : Text) (token : Token) (more : List Piece) : Prop :=
  ∀ more', (∀ c, more'.head? = some (.mark c) → more.head? = some (.mark c)) →
    tokensOf (marks.map Piece.mark ++ more') = (tokensOf more').map (token :: ·)

/-- A mark that is no token on its own is half of a connective. -/
theorem markToken_eq_ok {c : Char} {rest : List Piece} {token : Token}
    (h : markToken c rest = .ok token) :
    token.asFloat = token ∧ c ≠ '&' ∧ c ≠ '|' ∧ ∀ rest', markToken c rest' = .ok token := by
  rw [markToken.eq_def] at h
  split at h <;> cases h <;> exact ⟨rfl, by decide, by decide, fun _ => rfl⟩

theorem asFloat_of_markWithEquals? {c : Char} {token : Token}
    (h : markWithEquals? c = some token) : token.asFloat = token := by
  rw [markWithEquals?.eq_def] at h
  split at h <;> cases h <;> rfl

/-- A mark on its own, with an equals sign behind it or without. -/
theorem tokensOf_mark {c : Char} {rest more : List Piece} {token : Token}
    (h : markToken c rest = .ok token)
    (hequals : more.head? = some (.mark '=') → markWithEquals? c = none) :
    tokensOf (.mark c :: more) = (tokensOf more).map (token :: ·) := by
  obtain ⟨-, hand, hor, hsame⟩ := markToken_eq_ok h
  rw [tokensOf.eq_def]
  split <;> rename_i heq <;> cases heq
  · exact absurd rfl hand
  · exact absurd rfl hand
  · exact absurd rfl hor
  · exact absurd rfl hor
  · rw [hequals rfl]
    dsimp only
    rw [hsame]
  · rw [hsame]

/-- **Marks that are read** form a token that is no integer. -/
theorem exists_forms {c : Char} {rest : List Piece} {ts : List Token}
    (h : tokensOf (.mark c :: rest) = .ok ts) :
    ∃ marks token more, .mark c :: rest = marks.map Piece.mark ++ more ∧ marks ≠ [] ∧
      token.asFloat = token ∧ Forms marks token more := by
  rw [tokensOf.eq_def] at h
  split at h <;> rename_i heq <;> cases heq
  · rename_i more
    exact ⟨['&', '&', '='], .assignWith .and, more, rfl, nofun, rfl, fun _ _ => rfl⟩
  · rename_i more hequals
    refine ⟨['&', '&'], .sign .and, more, rfl, nofun, rfl, fun more' hmarks => ?_⟩
    change tokensOf (.mark '&' :: .mark '&' :: more') = _
    rw [tokensOf]
    rintro rest rfl
    obtain ⟨more'', rfl⟩ := List.head?_eq_some_iff.1 (hmarks '=' rfl)
    exact hequals more'' rfl
  · rename_i more
    exact ⟨['|', '|', '='], .assignWith .or, more, rfl, nofun, rfl, fun _ _ => rfl⟩
  · rename_i more hequals
    refine ⟨['|', '|'], .sign .or, more, rfl, nofun, rfl, fun more' hmarks => ?_⟩
    change tokensOf (.mark '|' :: .mark '|' :: more') = _
    rw [tokensOf]
    rintro rest rfl
    obtain ⟨more'', rfl⟩ := List.head?_eq_some_iff.1 (hmarks '=' rfl)
    exact hequals more'' rfl
  · rename_i more
    split at h
    · rename_i token htoken
      refine ⟨[c, '='], token, more, rfl, nofun, asFloat_of_markWithEquals? htoken, ?_⟩
      intro more' _
      change tokensOf (.mark c :: .mark '=' :: more') = _
      rw [tokensOf, htoken]
    · rename_i hnone
      split at h
      · rename_i token htoken
        refine ⟨[c], token, .mark '=' :: more, rfl, nofun, (markToken_eq_ok htoken).1, ?_⟩
        exact fun more' _ => tokensOf_mark htoken fun _ => hnone
      · cases h
  · have hequals : ∀ more, rest = .mark '=' :: more → False := by assumption
    split at h
    · rename_i token htoken
      refine ⟨[c], token, rest, rfl, nofun, (markToken_eq_ok htoken).1, fun more' hmarks => ?_⟩
      refine tokensOf_mark htoken fun hhead => ?_
      obtain ⟨more, hrest⟩ := List.head?_eq_some_iff.1 (hmarks '=' hhead)
      exact (hequals more hrest).elim
    · cases h

theorem length_lt_of_marks {piece : Piece} {rest more : List Piece} {marks : Text}
    (hne : marks ≠ []) (h : piece :: rest = marks.map Piece.mark ++ more) :
    more.length < (piece :: rest).length := by
  have hpos := List.length_pos_iff.2 hne
  rw [h, List.length_append, List.length_map]
  omega

/-! ## Runs that are read -/

/-- Whether the run is the front of a number whose power of ten has a sign: the sign and the digits
are the next two pieces. -/
def Joins (run : Text) (rest : List Piece) : Prop :=
  ∃ sign third more, rest = .mark sign :: third :: more ∧ IsSign sign ∧
    (Number.read? (run ++ [sign] ++ third.text)).isSome = true

section Runs

variable {run : Text} {rest : List Piece}

/-- A literal is read without what follows it. -/
theorem tokensOf_literal {token : Token} (h : runToken? run = some token) (rest : List Piece) :
    tokensOf (.run run :: rest) = (tokensOf rest).map (token :: ·) := by
  rw [tokensOf.eq_def]
  split <;> rename_i heq <;> cases heq
  · rw [h]
  · rw [h]
    rfl

/-- A name is read without what follows it, if that does not make it a number. -/
theorem tokensOf_name (h : runToken? run = none) (hapart : ¬ Joins run rest) :
    tokensOf (.run run :: rest) = (tokensOf rest).map (.name run :: ·) := by
  rw [tokensOf.eq_def]
  split <;> rename_i heq <;> cases heq
  · rename_i sign third more
    have hnone : (if sign = '+' ∨ sign = '-' then Number.read? (run ++ [sign] ++ third.text)
        else none) = none := by
      split
      · rename_i hsign
        by_contra hsome
        exact hapart ⟨sign, third, more, rfl, hsign, Option.isSome_iff_ne_none.2 hsome⟩
      · rfl
    rw [h]
    dsimp only
    rw [hnone]
  · rw [h]
    rfl

/-- A number with a sign in its power of ten is read from three pieces. -/
theorem tokensOf_signed {sign : Char} {third : Piece} {more : List Piece} {x : Float}
    (h : runToken? run = none) (hsign : IsSign sign)
    (hread : Number.read? (run ++ [sign] ++ third.text) = some x) :
    tokensOf (.run run :: .mark sign :: third :: more) =
      (tokensOf more).map (.float x :: ·) := by
  have hjoined : (if sign = '+' ∨ sign = '-' then Number.read? (run ++ [sign] ++ third.text)
      else none) = some x := (if_pos hsign).trans hread
  rw [tokensOf, h]
  dsimp only
  rw [hjoined]

end Runs

/-! ## Pieces that are read -/

/-- What holds of the pieces of a text. -/
def Piece.IsRead : Piece → Prop
  | .run text => text ≠ [] ∧ ∀ c ∈ text, isRunChar c = true
  | .mark c => isMark c = true
  | _ => True

theorem isRead_consRun {c : Char} {ps : List Piece} (hc : isRunChar c = true)
    (hps : ∀ piece ∈ ps, piece.IsRead) : ∀ piece ∈ Piece.consRun c ps, piece.IsRead := by
  rw [Piece.consRun.eq_def]
  split
  · obtain ⟨hrun, hmore⟩ := List.forall_mem_cons.1 hps
    refine List.forall_mem_cons.2 ⟨⟨List.cons_ne_nil _ _, ?_⟩, hmore⟩
    exact List.forall_mem_cons.2 ⟨hc, hrun.2⟩
  · exact List.forall_mem_cons.2 ⟨⟨List.cons_ne_nil _ _, List.forall_mem_singleton.2 hc⟩, hps⟩

/-- **Runs are run characters, and marks are marks.** -/
theorem isRead_of_piecesIn {context : Context} {text : Text} {ps : List Piece}
    (h : piecesIn context text = .ok ps) : ∀ piece ∈ ps, piece.IsRead := by
  fun_induction piecesIn context text generalizing ps with
  -- the end of the text, and what is refused
  | case1 | case2 =>
    cases h
    exact List.forall_mem_nil _
  | case3 | case4 | case11 | case13 => cases h
  -- a mark, a blank, a character of a run, and a string that ends
  | case8 c rest _ _ _ hmark ih =>
    obtain ⟨more, hmore, rfl⟩ := map_eq_ok_iff.1 h
    exact List.forall_mem_cons.2 ⟨hmark, ih hmore⟩
  | case9 c rest _ _ _ _ _ ih =>
    obtain ⟨more, hmore, rfl⟩ := map_eq_ok_iff.1 h
    exact List.forall_mem_cons.2 ⟨trivial, ih hmore⟩
  | case10 c rest _ _ hquote hmark hblank ih =>
    obtain ⟨more, hmore, rfl⟩ := map_eq_ok_iff.1 h
    exact isRead_consRun (isRunChar_of_ne hquote hmark hblank) (ih hmore)
  | case14 read rest _ _ ih =>
    obtain ⟨more, hmore, rfl⟩ := map_eq_ok_iff.1 h
    exact List.forall_mem_cons.2 ⟨trivial, ih hmore⟩
  -- the beginnings of comments and strings and what stands in them add no piece
  | case5 rest ih | case6 rest ih => exact ih h
  | case7 rest _ _ ih => exact ih h
  | case12 read c rest _ ih => exact ih h
  | case15 read c rest _ _ _ ih => exact ih h
  | case16 rest ih | case18 rest ih => exact ih h
  | case17 c rest _ ih => exact ih h
  | case19 c rest _ ih => exact ih h

section Joins

variable {run : Text} (hrun : Piece.IsRead (.run run))

include hrun

/-- No sign stands in a run. -/
theorem not_isSign_of_isRead : ∀ c ∈ run, ¬ IsSign c := by
  intro c hc hsign
  have hrunChar := hrun.2 c hc
  rcases hsign with rfl | rfl
  · exact absurd hrunChar (by decide)
  · exact absurd hrunChar (by decide)

/-- What completes a number after a sign is a run of digits. -/
theorem isDigits_of_joined {sign : Char} {third : Piece} {x : Float} (hsign : IsSign sign)
    (hthird : third.IsRead) (hread : Number.read? (run ++ [sign] ++ third.text) = some x) :
    ∃ digits, third = .run digits ∧ digits.IsDigits := by
  rw [List.append_assoc, List.singleton_append] at hread
  have hdigits := Number.isDigits_of_read?_eq_some hrun.1 (not_isSign_of_isRead hrun) hsign hread
  cases third with
  | run text => exact ⟨text, rfl, hdigits⟩
  | quoted text => exact absurd (List.all_eq_true.1 hdigits.2 '"' List.mem_cons_self) (by decide)
  | blank => exact absurd hdigits (by decide)
  | mark c =>
    have hdigit := List.all_eq_true.1 hdigits.2 c List.mem_cons_self
    rw [Piece.IsRead, isMark_of_isDigit hdigit] at hthird
    cases hthird

end Joins

/-- Digits have their fraction. -/
theorem not_isDigits_withFraction (run : Text) : ¬ (withFraction run).IsDigits := by
  rw [withFraction]
  split
  · rintro ⟨-, hall⟩
    exact absurd (List.all_eq_true.1 hall '.' (by simp [fraction])) (by decide)
  · assumption

theorem isRead_withFraction {piece : Piece} (h : piece.IsRead) : piece.withFraction.IsRead := by
  cases piece with
  | run text =>
    obtain ⟨hne, hall⟩ := h
    rw [Piece.withFraction, withFraction]
    split
    · exact ⟨by simp [hne], List.forall_mem_append.2 ⟨hall, isRunChar_of_mem_fraction⟩⟩
    · exact ⟨hne, hall⟩
  | quoted text => exact h
  | mark c => exact h
  | blank => exact h

/-- **With the fractions no number is read any more from three pieces.** -/
theorem not_joins_withFraction {run : Text} {rest : List Piece} (hrun : Piece.IsRead (.run run))
    (hrest : ∀ piece ∈ rest, piece.IsRead) : ¬ Joins run (rest.map Piece.withFraction) := by
  rintro ⟨sign, third, more, heq, hsign, hsome⟩
  obtain ⟨x, hread⟩ := Option.isSome_iff_exists.1 hsome
  obtain ⟨first, rest, rfl, -, heq⟩ := List.map_eq_cons_iff.1 heq
  obtain ⟨second, rest, rfl, hsecond, -⟩ := List.map_eq_cons_iff.1 heq
  have hthird : third.IsRead := by
    rw [← hsecond]
    exact isRead_withFraction (hrest second (by simp))
  obtain ⟨digits, rfl, hdigits⟩ := isDigits_of_joined hrun hsign hthird hread
  cases second with
  | run text =>
    cases hsecond
    exact not_isDigits_withFraction text hdigits
  | quoted text => cases hsecond
  | mark c => cases hsecond
  | blank => cases hsecond

/-! ## What becomes of the tokens -/

/-- **What the fractions make of tokens,** along the pieces that the tokens are read from. -/
inductive Marked : List Piece → List Token → List Token → Prop where
  | nil : Marked [] [] []
  | blank {ps ts ts'} : Marked ps ts ts' → Marked (.blank :: ps) ts ts'
  | quoted {ps ts ts'} (text : Text) :
    Marked ps ts ts' → Marked (.quoted text :: ps) (.string text :: ts) (.string text :: ts')
  /-- Operators and brackets stay. -/
  | marks {ps ts ts'} {marks : Text} {token : Token} (htoken : token.asFloat = token)
    (hforms : Forms marks token ps) :
    Marked ps ts ts' → Marked (marks.map Piece.mark ++ ps) (token :: ts) (token :: ts')
  /-- An integer becomes a double, and other literals stay. -/
  | literal {ps ts ts'} {run : Text} {token : Token} (htoken : runToken? run = some token)
    (hhex : isHex run = false) :
    Marked ps ts ts' → Marked (.run run :: ps) (token :: ts) (token.asFloat :: ts')
  /-- A hexadecimal integer stays, too. -/
  | hex {ps ts ts'} {run : Text} {n : Int} (hhex : isHex run = true)
    (htoken : runToken? run = some (.int n)) :
    Marked ps ts ts' → Marked (.run run :: ps) (.int n :: ts) (.int n :: ts')
  | name {ps ts ts'} {run : Text} (hname : runToken? run = none) (hapart : ¬ Joins run ps) :
    Marked ps ts ts' → Marked (.run run :: ps) (.name run :: ts) (.name run :: ts')
  /-- A number with a sign in its power of ten comes apart. -/
  | signed {ps ts ts'} {run digits : Text} {c : Char} {x : Float} {sign : Sign}
    (hname : runToken? run = none) (hc : IsSign c) (hsign : markToken c [] = .ok (.sign sign))
    (hdigits : digits.IsDigits) (hread : Number.read? (run ++ [c] ++ digits) = some x) :
    Marked ps ts ts' → Marked (.run run :: .mark c :: .run digits :: ps) (.float x :: ts)
      (.name run :: .sign sign ::
        .float (Number.Scientific.toFloat ⟨false, Number.digitsValue digits, 0⟩) :: ts')

/-- Digits are a literal. -/
theorem runToken?_ne_none_of_isDigits {run : Text} (h : run.IsDigits) : runToken? run ≠ none := by
  intro hnone
  have hunsigned := Number.unsigned_of_isDigits h []
  have hhex : isHex run = false := Bool.eq_false_iff.2 fun hhex => (of_isHex hhex).1 h
  have hmarked := runToken?_withFraction (List.append_nil run ▸ hunsigned) hhex
  rw [withFraction, if_pos h, runToken?_fraction h, hnone] at hmarked
  cases hmarked

/-- A mark with its fraction is the mark, and nothing else is. -/
theorem withFraction_eq_mark_iff {piece : Piece} {c : Char} :
    piece.withFraction = .mark c ↔ piece = .mark c := by
  cases piece <;> simp [Piece.withFraction]

theorem map_withFraction_marks (marks : Text) (more : List Piece) :
    (marks.map Piece.mark ++ more).map Piece.withFraction =
      marks.map Piece.mark ++ more.map Piece.withFraction := by
  rw [List.map_append, List.map_map]
  rfl

/-- A sign in front of anything but another mark. -/
theorem tokensOf_sign {c : Char} (hc : IsSign c) :
    ∃ sign, markToken c [] = .ok (.sign sign) ∧ ∀ more : List Piece,
      (∀ mark, more.head? ≠ some (.mark mark)) →
        tokensOf (.mark c :: more) = (tokensOf more).map (.sign sign :: ·) := by
  obtain ⟨sign, hsign⟩ : ∃ sign, markToken c [] = .ok (.sign sign) := by
    rcases hc with rfl | rfl
    · exact ⟨.plus, rfl⟩
    · exact ⟨.minus, rfl⟩
  exact ⟨sign, hsign, fun more hmore => tokensOf_mark hsign fun h => absurd h (hmore _)⟩

section Run

variable {run : Text} {rest : List Piece} {ts : List Token}
  (hread : ∀ piece ∈ Piece.run run :: rest, piece.IsRead) (h : tokensOf (.run run :: rest) = .ok ts)
  (ih : ∀ {ps ts}, ps.length < (Piece.run run :: rest).length → (∀ piece ∈ ps, piece.IsRead) →
    tokensOf ps = .ok ts → ∃ ts', tokensOf (ps.map Piece.withFraction) = .ok ts' ∧ Marked ps ts ts')

include hread h ih

/-- A literal. -/
theorem marked_literal {token : Token} (htoken : runToken? run = some token) :
    ∃ ts', tokensOf ((Piece.run run :: rest).map Piece.withFraction) = .ok ts' ∧
      Marked (.run run :: rest) ts ts' := by
  obtain ⟨hrun, hrest⟩ := List.forall_mem_cons.1 hread
  rw [tokensOf_literal htoken] at h
  obtain ⟨more, hmore, rfl⟩ := map_eq_ok_iff.1 h
  obtain ⟨more', hmore', hmarked⟩ := ih (Nat.lt_succ_self _) hrest hmore
  rw [List.map_cons, Piece.withFraction]
  cases hhex : isHex run with
  | true =>
    obtain ⟨hdigits, n, hn⟩ := of_isHex hhex
    have hint : runToken? run = some (.int n) := by rw [runToken?, hn]
    obtain rfl : token = .int n := Option.some.inj (htoken.symm.trans hint)
    refine ⟨.int n :: more', ?_, .hex hhex hint hmarked⟩
    rw [withFraction, if_neg hdigits, tokensOf_literal hint, hmore']
    rfl
  | false =>
    have hunsigned : ∀ c ∈ run.head?, ¬ IsSign c :=
      fun c hc => not_isSign_of_isRead hrun c (List.mem_of_mem_head? hc)
    have htoken' := runToken?_withFraction hunsigned hhex
    rw [htoken, Option.map_some] at htoken'
    refine ⟨token.asFloat :: more', ?_, .literal htoken hhex hmarked⟩
    rw [tokensOf_literal htoken', hmore']
    rfl

/-- A name, or the front of a number. -/
theorem marked_name (hname : runToken? run = none) :
    ∃ ts', tokensOf ((Piece.run run :: rest).map Piece.withFraction) = .ok ts' ∧
      Marked (.run run :: rest) ts ts' := by
  obtain ⟨hrun, hrest⟩ := List.forall_mem_cons.1 hread
  have hdigits : ¬ run.IsDigits := fun hdigits => runToken?_ne_none_of_isDigits hdigits hname
  have hapart' := not_joins_withFraction hrun hrest
  rw [List.map_cons, Piece.withFraction, withFraction, if_neg hdigits, tokensOf_name hname hapart']
  by_cases hjoins : Joins run rest
  · obtain ⟨c, third, more, rfl, hc, hsome⟩ := hjoins
    obtain ⟨x, hx⟩ := Option.isSome_iff_exists.1 hsome
    obtain ⟨digits, rfl, hthird⟩ := isDigits_of_joined hrun hc (hrest third (by simp)) hx
    rw [tokensOf_signed hname hc hx] at h
    obtain ⟨after, hafter, rfl⟩ := map_eq_ok_iff.1 h
    obtain ⟨after', hafter', hmarked⟩ :=
      ih (by simp only [List.length_cons]; omega) (fun piece hp => hrest piece (by simp [hp])) hafter
    obtain ⟨sign, htoken, hsign⟩ := tokensOf_sign hc
    refine ⟨_, ?_, .signed hname hc htoken hthird hx hmarked⟩
    rw [List.map_cons, List.map_cons, Piece.withFraction, Piece.withFraction, withFraction,
      if_pos hthird, hsign _ (by simp), tokensOf_literal (runToken?_fraction hthird), hafter']
    rfl
  · rw [tokensOf_name hname hjoins] at h
    obtain ⟨more, hmore, rfl⟩ := map_eq_ok_iff.1 h
    obtain ⟨more', hmore', hmarked⟩ := ih (Nat.lt_succ_self _) hrest hmore
    refine ⟨.name run :: more', ?_, .name hname hjoins hmarked⟩
    rw [hmore']
    rfl

end Run

/-- **The marked pieces are read,** whatever the pieces are. -/
theorem marked_of_tokensOf {ps : List Piece} {ts : List Token}
    (hread : ∀ piece ∈ ps, piece.IsRead) (h : tokensOf ps = .ok ts) :
    ∃ ts', tokensOf (ps.map Piece.withFraction) = .ok ts' ∧ Marked ps ts ts' := by
  induction hlength : ps.length using Nat.strong_induction_on generalizing ps ts with
  | _ length ih =>
    subst hlength
    replace ih {more : List Piece} {ts : List Token} (hlt : more.length < ps.length)
      (hread : ∀ piece ∈ more, piece.IsRead) (h : tokensOf more = .ok ts) := ih _ hlt hread h rfl
    cases ps with
    | nil =>
      cases h
      exact ⟨[], rfl, .nil⟩
    | cons piece rest =>
      have hrest := (List.forall_mem_cons.1 hread).2
      cases piece with
      | blank =>
        rw [tokensOf] at h
        obtain ⟨ts', hts', hmarked⟩ := ih (Nat.lt_succ_self _) hrest h
        refine ⟨ts', ?_, .blank hmarked⟩
        rw [List.map_cons, Piece.withFraction, tokensOf]
        exact hts'
      | quoted text =>
        rw [tokensOf] at h
        obtain ⟨more, hmore, rfl⟩ := map_eq_ok_iff.1 h
        obtain ⟨more', hmore', hmarked⟩ := ih (Nat.lt_succ_self _) hrest hmore
        refine ⟨_, ?_, .quoted text hmarked⟩
        rw [List.map_cons, Piece.withFraction, tokensOf, hmore']
        rfl
      | mark c =>
        obtain ⟨marks, token, more, hps, hne, htoken, hforms⟩ := exists_forms h
        have hlt := length_lt_of_marks hne hps
        rw [hps] at hread h ⊢
        rw [hforms more fun _ => id] at h
        obtain ⟨after, hafter, rfl⟩ := map_eq_ok_iff.1 h
        obtain ⟨after', hafter', hmarked⟩ :=
          ih hlt (List.forall_mem_append.1 hread).2 hafter
        refine ⟨token :: after', ?_, .marks htoken hforms hmarked⟩
        rw [map_withFraction_marks, hforms, hafter']
        · rfl
        · intro d hd
          rw [List.head?_map, Option.map_eq_some_iff] at hd
          obtain ⟨first, hfirst, hd⟩ := hd
          rw [hfirst, withFraction_eq_mark_iff.1 hd]
      | run run =>
        cases htoken : runToken? run with
        | some token => exact marked_literal hread h ih htoken
        | none => exact marked_name hread h ih htoken

/-! ## Literals that the fractions do not reach -/

/-- A hexadecimal integer, or the front of a number with a sign in its power of ten. -/
def Unreached (run : Text) (rest : List Piece) : Prop :=
  isHex run = true ∨ runToken? run = none ∧ Joins run rest

/-- Whether the pieces hold a literal that the fractions do not reach. -/
def HasUnreached : List Piece → Prop
  | [] => False
  | .run run :: rest => Unreached run rest ∨ HasUnreached rest
  | _ :: rest => HasUnreached rest

theorem hasUnreached_marks (marks : Text) (ps : List Piece) :
    HasUnreached (marks.map Piece.mark ++ ps) ↔ HasUnreached ps := by
  induction marks with
  | nil => rfl
  | cons c marks ih => exact ih

/-- Literals that are no hexadecimal integers are reached, and names are no literals. -/
theorem not_unreached_of_token {run : Text} {rest : List Piece} {token : Token}
    (htoken : runToken? run = some token) (hhex : isHex run = false) : ¬ Unreached run rest := by
  rintro (hhex' | ⟨hname, -⟩)
  · rw [hhex] at hhex'
    cases hhex'
  · rw [htoken] at hname
    cases hname

theorem not_unreached_of_apart {run : Text} {rest : List Piece}
    (hname : runToken? run = none) (hapart : ¬ Joins run rest) : ¬ Unreached run rest := by
  rintro (hhex | ⟨-, hjoins⟩)
  · obtain ⟨-, n, hn⟩ := of_isHex hhex
    rw [runToken?, hn] at hname
    cases hname
  · exact hapart hjoins

/-- More tokens than before, or an integer among them. -/
def Differs (ts ts' : List Token) : Prop := ts.length < ts'.length ∨ ∃ n, .int n ∈ ts'

theorem Differs.cons {ts ts' : List Token} (h : Differs ts ts') (token token' : Token) :
    Differs (token :: ts) (token' :: ts') := by
  rcases h with hlt | ⟨n, hn⟩
  · exact .inl (Nat.succ_lt_succ hlt)
  · exact .inr ⟨n, List.mem_cons_of_mem _ hn⟩

/-- Tokens without integers are others. -/
theorem Differs.ne_map {ts ts' : List Token} (h : Differs ts ts') :
    ts' ≠ ts.map Token.asFloat := by
  rintro rfl
  rcases h with hlt | ⟨n, hn⟩
  · rw [List.length_map] at hlt
    exact Nat.lt_irrefl _ hlt
  · obtain ⟨token, -, htoken⟩ := List.mem_map.1 hn
    cases token <;> cases htoken

section Marked

variable {ps : List Piece} {ts ts' : List Token}

/-- No token is lost. -/
theorem Marked.length_le (h : Marked ps ts ts') : ts.length ≤ ts'.length := by
  induction h with
  | nil => exact Nat.le_refl _
  | blank _ ih => exact ih
  | quoted _ _ ih | marks _ _ _ ih | literal _ _ _ ih | hex _ _ _ ih | name _ _ _ ih =>
    exact Nat.succ_le_succ ih
  | signed =>
    simp only [List.length_cons]
    omega

/-- **Where the fractions reach all literals, the integers become doubles,** and nothing else
changes. -/
theorem Marked.eq_map (h : Marked ps ts ts') (hreached : ¬ HasUnreached ps) :
    ts' = ts.map Token.asFloat := by
  induction h with
  | nil => rfl
  | blank _ ih => exact ih hreached
  | quoted text _ ih =>
    rw [ih hreached]
    rfl
  | @marks _ _ _ marks _ htoken _ _ ih =>
    rw [ih (mt (hasUnreached_marks marks _).2 hreached), List.map_cons, htoken]
  | literal _ _ _ ih => rw [ih (not_or.1 hreached).2, List.map_cons]
  | hex hhex _ _ _ => exact absurd (.inl (.inl hhex)) hreached
  | name _ _ _ ih =>
    rw [ih (not_or.1 hreached).2]
    rfl
  | @signed more _ _ run digits c _ _ hname hc _ _ hread _ _ =>
    have hjoins : Joins run (.mark c :: .run digits :: more) :=
      ⟨c, .run digits, more, rfl, hc, Option.isSome_of_eq_some hread⟩
    exact absurd (.inl (.inr ⟨hname, hjoins⟩)) hreached

/-- **A literal that they do not reach shows.** -/
theorem Marked.differs (h : Marked ps ts ts') (hunreached : HasUnreached ps) : Differs ts ts' := by
  induction h with
  | nil => exact hunreached.elim
  | blank _ ih => exact ih hunreached
  | quoted text _ ih => exact (ih hunreached).cons _ _
  | @marks _ _ _ marks _ _ _ _ ih =>
    exact (ih ((hasUnreached_marks marks _).1 hunreached)).cons _ _
  | literal htoken hhex _ ih =>
    exact (ih (hunreached.resolve_left (not_unreached_of_token htoken hhex))).cons _ _
  | @hex _ _ _ _ n _ _ _ _ => exact .inr ⟨n, List.mem_cons_self⟩
  | name hname hapart _ ih =>
    exact (ih (hunreached.resolve_left (not_unreached_of_apart hname hapart))).cons _ _
  | signed _ _ _ _ _ hmarked _ =>
    have hle := hmarked.length_le
    refine .inl ?_
    simp only [List.length_cons]
    omega

end Marked

/-- **What the fractions make of the tokens,** where the two readers see the same: doubles of the
integers and nothing else, exactly if they reach all literals. -/
theorem tokens_of_aligned {text : Text} {ps : List Piece} {ts ts' : List Token}
    (haligned : aligned (.code .gap) text = true) (hps : pieces text = .ok ps)
    (hts : tokensOf ps = .ok ts) (hts' : tokenize (markIntegers text) = .ok ts') :
    ts' = ts.map Token.asFloat ↔ ¬ HasUnreached ps := by
  obtain ⟨marked, hmarked, h⟩ := marked_of_tokensOf (isRead_of_piecesIn hps) hts
  have hsame : tokenize (markIntegers text) = .ok marked := by
    rw [tokenize, pieces_markIntegers haligned hps]
    exact hmarked
  obtain rfl := Except.ok.inj (hts'.symm.trans hsame)
  exact ⟨fun heq hunreached => (h.differs hunreached).ne_map heq, h.eq_map⟩

end MapScript.Expr
