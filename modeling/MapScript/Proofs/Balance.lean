/-
Texts that close what they open.

A text is balanced when a reading of it from the left never closes a bracket that is not open,
ends with none open and leaves nothing escaped (`Span.Balanced`). Such a text may stand inside a
pair of brackets without being noticed: the scan for the bracket that closes the pair comes out
behind it as it went in (`splitClosing_of_balancedFrom`), whatever is open around it. So a pair
of brackets around a balanced text is closed where it should be (`close_of_balanced`), and the
first of such pairs is the span that is focused (`focusFirst_of_balanced`), with a name before it
the call (`focusCall_of_balanced`).

Balanced texts are built from texts without brackets by putting them side by side and between
brackets.
-/
import MapScript.Proofs.Brackets

set_option autoImplicit false

namespace MapScript.Span

/-! ## Balanced texts -/

/-- Whether a text closes what it opens and the `depth` brackets that are open before it, and
ends where nothing is escaped. -/
def balancedFrom (opening closing : Char) : (escaped : Bool) → (depth : Nat) → Text → Bool
  | escaped, depth, [] => !escaped && depth == 0
  | true, depth, _ :: rest => balancedFrom opening closing false depth rest
  | false, depth, c :: rest =>
    if c = '\\' then balancedFrom opening closing true depth rest
    else if c = opening then balancedFrom opening closing false (depth + 1) rest
    else if c = closing then depth != 0 && balancedFrom opening closing false (depth - 1) rest
    else balancedFrom opening closing false depth rest

/-- **A balanced text:** read from its start, it never closes more brackets than it has opened,
closes all of them, and does not end in the middle of an escape. -/
def Balanced (opening closing : Char) (text : Text) : Prop :=
  balancedFrom opening closing false 0 text = true

instance (opening closing : Char) (text : Text) : Decidable (Balanced opening closing text) :=
  inferInstanceAs (Decidable (_ = true))

/-- Two characters that can serve as a pair of brackets. -/
structure Pair (opening closing : Char) : Prop where
  opening_ne : opening ≠ '\\'
  closing_ne : closing ≠ '\\'
  distinct : closing ≠ opening

/-- Braces are a pair. -/
theorem Pair.braces : Pair '\x7b' '\x7d' := ⟨by decide, by decide, by decide⟩

/-- So are parentheses. -/
theorem Pair.parentheses : Pair '(' ')' := ⟨by decide, by decide, by decide⟩

variable {opening closing : Char}

/-- What a text closes is closed, and the reading goes on with what was open around it. -/
theorem balancedFrom_append {escaped : Bool} {depth : Nat} {left : Text}
    (h : balancedFrom opening closing escaped depth left = true) (outer : Nat) (right : Text) :
    balancedFrom opening closing escaped (depth + outer) (left ++ right) =
      balancedFrom opening closing false outer right := by
  fun_induction balancedFrom opening closing escaped depth left with
  | case1 escaped depth =>
    -- at the end of the text nothing is escaped, and only the outer brackets are open
    simp only [Bool.and_eq_true, Bool.not_eq_true', beq_iff_eq] at h
    rw [h.1, h.2, Nat.zero_add, List.nil_append]
  -- an escaped character
  | case2 depth c rest ih =>
    rw [List.cons_append, balancedFrom]
    exact ih h
  -- a backslash
  | case3 depth rest ih =>
    rw [List.cons_append, balancedFrom, if_pos rfl]
    exact ih h
  -- an opening bracket
  | case4 depth rest hescape ih =>
    rw [List.cons_append, balancedFrom, if_neg hescape, if_pos rfl, Nat.add_right_comm]
    exact ih h
  -- a closing bracket
  | case5 depth rest hescape hopen ih =>
    -- one of the brackets that `depth` counts is closed, so none of the outer ones is
    simp only [Bool.and_eq_true, bne_iff_ne] at h
    obtain ⟨less, rfl⟩ := Nat.exists_eq_succ_of_ne_zero h.1
    have hpositive : (less.succ + outer != 0) = true := by simp
    have hless : less.succ + outer - 1 = less.succ - 1 + outer := by omega
    rw [List.cons_append, balancedFrom, if_neg hescape, if_neg hopen, if_pos rfl, hpositive,
      Bool.true_and, hless]
    exact ih h.2
  -- any other character
  | case6 depth c rest hescape hopen hclose ih =>
    rw [List.cons_append, balancedFrom, if_neg hescape, if_neg hopen, if_neg hclose]
    exact ih h

namespace Balanced

/-- A text without brackets and backslashes is balanced. -/
theorem of_free {text : Text} (h : ∀ c ∈ text, c ≠ opening ∧ c ≠ closing ∧ c ≠ '\\') :
    Balanced opening closing text := by
  unfold Balanced
  induction text with
  | nil => rfl
  | cons c rest ih =>
    obtain ⟨⟨hopen, hclose, hescape⟩, hrest⟩ := List.forall_mem_cons.1 h
    rw [balancedFrom, if_neg hescape, if_neg hopen, if_neg hclose]
    exact ih hrest

/-- Two balanced texts are balanced side by side. -/
theorem append {left right : Text} (hleft : Balanced opening closing left)
    (hright : Balanced opening closing right) : Balanced opening closing (left ++ right) :=
  (balancedFrom_append hleft 0 right).trans hright

/-- A balanced text between brackets is balanced. -/
theorem enclose (hpair : Pair opening closing) {inside : Text}
    (h : Balanced opening closing inside) :
    Balanced opening closing (opening :: (inside ++ [closing])) := by
  have hclosed : balancedFrom opening closing false 1 [closing] = true := by
    simp [balancedFrom, hpair.closing_ne, hpair.distinct]
  have hinside := balancedFrom_append h 1 [closing]
  unfold Balanced
  rw [balancedFrom, if_neg hpair.opening_ne, if_pos rfl, ← hclosed, ← hinside]

end Balanced

/-! ## Scans -/

/-- A backslash is passed, and the character after it is escaped. -/
theorem splitClosing_backslash (depth : Nat) (rest : Text) :
    splitClosing opening closing false depth ('\\' :: rest) =
      (splitClosing opening closing true depth rest).map (consFirst '\\') := by
  rw [splitClosing.eq_def]
  exact if_pos rfl

/-- An opening bracket is passed, and one bracket more is open. -/
theorem splitClosing_opening (hopening : opening ≠ '\\') (depth : Nat) (rest : Text) :
    splitClosing opening closing false depth (opening :: rest) =
      (splitClosing opening closing false (depth + 1) rest).map (consFirst opening) := by
  rw [splitClosing.eq_def]
  exact (if_neg hopening).trans (if_pos rfl)

/-- A closing bracket that leaves one open is passed. -/
theorem splitClosing_closing (hclosing : closing ≠ '\\') (hdistinct : closing ≠ opening)
    (depth : Nat) (rest : Text) :
    splitClosing opening closing false (depth + 2) (closing :: rest) =
      (splitClosing opening closing false (depth + 1) rest).map (consFirst closing) := by
  rw [splitClosing.eq_def]
  exact (if_neg hclosing).trans ((if_neg hdistinct).trans (if_pos rfl))

/-- A character that is no bracket and no backslash is passed. -/
theorem splitClosing_other {c : Char} (hescape : c ≠ '\\') (hopen : c ≠ opening)
    (hclose : c ≠ closing) (depth : Nat) (rest : Text) :
    splitClosing opening closing false depth (c :: rest) =
      (splitClosing opening closing false depth rest).map (consFirst c) := by
  rw [splitClosing.eq_def]
  exact (if_neg hescape).trans ((if_neg hopen).trans (if_neg hclose))

/-- **The scan for a closing bracket passes a text that closes what is open.** All brackets of
the text are paired with each other, so the scan is as deep behind the text as the brackets
around it. -/
theorem splitClosing_of_balancedFrom {escaped : Bool} {depth : Nat} {part : Text}
    (h : balancedFrom opening closing escaped depth part = true) (outer : Nat) (rest : Text) :
    splitClosing opening closing escaped (depth + outer + 1) (part ++ rest) =
      (splitClosing opening closing false (outer + 1) rest).map (Prod.map (part ++ ·) id) := by
  -- a character that is passed stands before the part that a later split begins with
  have hpass (c : Char) (part : Text) (split : Option (Text × Text)) :
      (split.map (Prod.map (part ++ ·) id)).map (consFirst c) =
        split.map (Prod.map (c :: part ++ ·) id) := by
    cases split <;> rfl
  fun_induction balancedFrom opening closing escaped depth part with
  -- the end of the text
  | case1 escaped depth =>
    simp only [Bool.and_eq_true, Bool.not_eq_true', beq_iff_eq] at h
    rw [h.1, h.2, Nat.zero_add]
    exact Option.map_id'.symm
  -- an escaped character
  | case2 depth c rest ih => rw [List.cons_append, splitClosing, ih h, hpass]
  -- a backslash
  | case3 depth rest ih => rw [List.cons_append, splitClosing_backslash, ih h, hpass]
  -- an opening bracket
  | case4 depth rest hescape ih =>
    have hdeeper : depth + outer + 1 + 1 = depth + 1 + outer + 1 := by omega
    rw [List.cons_append, splitClosing_opening hescape, hdeeper, ih h, hpass]
  -- a closing bracket
  | case5 depth rest hescape hopen ih =>
    -- the bracket that is closed is one of the text, so the scan does not stop at it
    simp only [Bool.and_eq_true, bne_iff_ne] at h
    obtain ⟨less, rfl⟩ := Nat.exists_eq_succ_of_ne_zero h.1
    have hdeep : less.succ + outer + 1 = less + outer + 2 := by omega
    rw [List.cons_append, hdeep, splitClosing_closing hescape hopen]
    exact (congrArg (Option.map (consFirst closing)) (ih h.2)).trans (hpass closing rest _)
  -- any other character
  | case6 depth c rest hescape hopen hclose ih =>
    rw [List.cons_append, splitClosing_other hescape hopen hclose, ih h, hpass]

/-- **What the scan has passed when it stops closes what is open,** all but the bracket that it stops
at. -/
theorem balancedFrom_of_splitClosing {escaped : Bool} {depth : Nat} {text part after : Text}
    (h : splitClosing opening closing escaped (depth + 1) text = some (part, after)) :
    balancedFrom opening closing escaped depth part = true := by
  induction text generalizing escaped depth part with
  | nil => simp [splitClosing] at h
  | cons c text ih =>
    cases escaped with
    | true =>
      rw [splitClosing] at h
      obtain ⟨part', hsplit, rfl⟩ := map_consFirst_eq_some h
      rw [balancedFrom]
      exact ih hsplit
    | false =>
      rw [splitClosing.eq_def] at h
      dsimp only at h
      split at h
      · rename_i hescape
        obtain ⟨part', hsplit, rfl⟩ := map_consFirst_eq_some h
        rw [balancedFrom, if_pos hescape]
        exact ih hsplit
      · rename_i hescape
        split at h
        · rename_i hopen
          obtain ⟨part', hsplit, rfl⟩ := map_consFirst_eq_some h
          rw [balancedFrom, if_neg hescape, if_pos hopen]
          exact ih hsplit
        · rename_i hopen
          split at h
          · rename_i hclose
            cases depth with
            | zero =>
              -- the scan stops here, behind a text that closes all it has opened
              simp only [Option.some.injEq, Prod.mk.injEq] at h
              rw [← h.1]
              rfl
            | succ depth =>
              obtain ⟨part', hsplit, rfl⟩ := map_consFirst_eq_some h
              rw [balancedFrom, if_neg hescape, if_neg hopen, if_pos hclose]
              simpa using ih hsplit
          · rename_i hclose
            obtain ⟨part', hsplit, rfl⟩ := map_consFirst_eq_some h
            rw [balancedFrom, if_neg hescape, if_neg hopen, if_neg hclose]
            exact ih hsplit

/-- The first `ch` after a text that has none and leaves nothing escaped is found. -/
theorem splitUnescaped_append {ch : Char} (hch : ch ≠ '\\') {escaped : Bool} {before : Text}
    (hnone : splitUnescaped ch escaped before = none)
    (hescaped : escapedAfter escaped before = false) (rest : Text) :
    splitUnescaped ch escaped (before ++ ch :: rest) = some (before, ch :: rest) := by
  fun_induction splitUnescaped ch escaped before with
  | case1 escaped =>
    rw [escapedAfter] at hescaped
    rw [hescaped, List.nil_append, splitUnescaped, if_neg hch, if_pos rfl]
  -- an escaped character
  | case2 c before ih =>
    rw [escapedAfter] at hescaped
    rw [List.cons_append, splitUnescaped, ih (Option.map_eq_none_iff.1 hnone) hescaped]
    rfl
  -- a backslash
  | case3 before ih =>
    rw [escapedAfter, decide_eq_true rfl] at hescaped
    rw [List.cons_append, splitUnescaped, if_pos rfl,
      ih (Option.map_eq_none_iff.1 hnone) hescaped]
    rfl
  -- `ch` itself, which the text does not have
  | case4 before hescape => cases hnone
  -- any other character
  | case5 c before hescape hne ih =>
    rw [escapedAfter_cons hescape] at hescaped
    rw [List.cons_append, splitUnescaped, if_neg hescape, if_neg hne,
      ih (Option.map_eq_none_iff.1 hnone) hescaped]
    rfl

/-- The text before the first `ch` that is found has none. -/
theorem splitUnescaped_before {ch : Char} {escaped : Bool} {text before rest : Text}
    (h : splitUnescaped ch escaped text = some (before, rest)) :
    splitUnescaped ch escaped before = none := by
  fun_induction splitUnescaped ch escaped text generalizing before with
  | case1 escaped => cases h
  -- an escaped character
  | case2 c text ih =>
    obtain ⟨before', hsplit, rfl⟩ := map_consFirst_eq_some h
    rw [splitUnescaped, ih hsplit]
    rfl
  -- a backslash
  | case3 text ih =>
    obtain ⟨before', hsplit, rfl⟩ := map_consFirst_eq_some h
    rw [splitUnescaped, if_pos rfl, ih hsplit]
    rfl
  -- `ch` itself
  | case4 text hescape =>
    simp only [Option.some.injEq, Prod.mk.injEq] at h
    rw [← h.1]
    rfl
  -- any other character
  | case5 c text hescape hne ih =>
    obtain ⟨before', hsplit, rfl⟩ := map_consFirst_eq_some h
    rw [splitUnescaped, if_neg hescape, if_neg hne, ih hsplit]
    rfl

/-- The part before the first span has no opening bracket that is not escaped. -/
theorem hasUnescaped_before_of_focusFirst (hopening : opening ≠ '\\') {text : Text} {span : Span}
    (hfocus : focusFirst text opening closing = .ok span) :
    hasUnescaped opening span.before = false := by
  rw [focusFirst] at hfocus
  split at hfocus
  · rename_i before rest hsplit
    obtain ⟨-, hhead⟩ := splitUnescaped_eq_some hsplit
    obtain ⟨rest', rfl⟩ := List.head?_eq_some_iff.1 hhead
    obtain ⟨-, hbefore, -⟩ := rewrap_inside_of_close hopening hfocus
    rw [hbefore, hasUnescaped, splitUnescaped_before hsplit]
    rfl
  · cases hfocus

/-- A text without `ch` and without backslashes has no `ch` and leaves nothing escaped. -/
theorem splitUnescaped_of_free {ch : Char} {text : Text} (h : ∀ c ∈ text, c ≠ ch ∧ c ≠ '\\') :
    splitUnescaped ch false text = none ∧ escapedAfter false text = false := by
  induction text with
  | nil => exact ⟨rfl, rfl⟩
  | cons c rest ih =>
    obtain ⟨⟨hne, hescape⟩, hrest⟩ := List.forall_mem_cons.1 h
    obtain ⟨hnone, hescaped⟩ := ih hrest
    rw [splitUnescaped, if_neg hescape, if_neg hne, hnone, escapedAfter_cons hescape]
    exact ⟨rfl, hescaped⟩

/-- Such a text has no unescaped `ch`. -/
theorem hasUnescaped_of_free {ch : Char} {text : Text} (h : ∀ c ∈ text, c ≠ ch ∧ c ≠ '\\') :
    hasUnescaped ch text = false := by
  rw [hasUnescaped, (splitUnescaped_of_free h).1]
  rfl

/-! ## Spans around balanced texts -/

/-- **A bracket before a balanced text is closed behind it.** -/
theorem close_of_balanced (hpair : Pair opening closing) (text before lead : Text)
    {inside : Text} (hinside : Balanced opening closing inside) (after : Text) :
    close text before lead (opening :: (inside ++ closing :: after)) opening closing =
      .ok ⟨before, lead, inside, after, opening, closing⟩ := by
  have hopen : splitClosing opening closing false 0 (opening :: (inside ++ closing :: after)) =
      (splitClosing opening closing false 1 (inside ++ closing :: after)).map
        (consFirst opening) := splitClosing_opening hpair.opening_ne 0 _
  have hclose : splitClosing opening closing false 1 (closing :: after) = some ([], after) := by
    rw [splitClosing, if_neg hpair.closing_ne, if_neg hpair.distinct, if_pos rfl]
  have hscan := splitClosing_of_balancedFrom hinside 0 (closing :: after)
  simp only [Nat.zero_add, hclose] at hscan
  simp only [close, hopen, hscan]
  simp [consFirst]

/-- **The first span** is that of the first bracket which is not escaped, around the balanced
text between it and its partner. -/
theorem focusFirst_of_balanced (hpair : Pair opening closing) {before inside : Text}
    (hnone : splitUnescaped opening false before = none)
    (hescaped : escapedAfter false before = false) (hinside : Balanced opening closing inside)
    (after : Text) :
    focusFirst (before ++ opening :: (inside ++ closing :: after)) opening closing =
      .ok ⟨before, [], inside, after, opening, closing⟩ := by
  rw [focusFirst, splitUnescaped_append hpair.opening_ne hnone hescaped]
  exact close_of_balanced hpair _ before [] hinside after

/-- **The first call** of a name at the beginning of a text is around the balanced text between
the parentheses. -/
theorem focusCall_of_balanced {name lead inside : Text} (hname : name ≠ [])
    (hlead : lead.map Char.toLower = name.map Char.toLower)
    (hinside : Balanced '(' ')' inside) (after : Text) :
    focusCall (lead ++ '(' :: (inside ++ ')' :: after)) name '(' ')' =
      .ok ⟨[], lead, inside, after, '(', ')'⟩ := by
  have hlength : lead.length = name.length := by simpa using congrArg List.length hlead
  rw [focusCall_of_findCall? (findCall?_append hname hlead _) hlength]
  exact close_of_balanced .parentheses _ [] lead hinside after

end MapScript.Span
