/-
Where brackets stand, and how a text is put together from the span that is focused.

Whether a character is escaped is decided by what stands before it: `escapedAfter` reads a
text and tells whether its last character was an escaping backslash. A bracket counts
exactly when the text before it leaves nothing escaped, and this does not depend on where a
reading began as long as nothing was escaped there (`escapedAfter_append`); it is why a span
inside a span can be looked at on its own.

A focused span rebuilds its text (`rewrap_inside_of_focusFirst`,
`rewrap_inside_of_focusCall`), and different insides rebuild different texts
(`rewrap_injective`).
-/
import MapScript.Span
import MapScript.Proofs.Search
import Mathlib

set_option autoImplicit false

namespace MapScript.Span

/-! ## Escapes -/

/-- Whether the character after a text is escaped, when the first one of the text is
(`true`) or is not (`false`). -/
def escapedAfter : (escaped : Bool) → Text → Bool
  | escaped, [] => escaped
  | true, _ :: rest => escapedAfter false rest
  | false, c :: rest => escapedAfter (c = '\\') rest

/-- Reading goes on where it stopped. -/
theorem escapedAfter_append (escaped : Bool) (left right : Text) :
    escapedAfter escaped (left ++ right) = escapedAfter (escapedAfter escaped left) right := by
  induction left generalizing escaped with
  | nil => rw [List.nil_append, escapedAfter]
  | cons c left ih =>
    cases escaped with
    | true => rw [List.cons_append, escapedAfter, escapedAfter, ih]
    | false => rw [List.cons_append, escapedAfter, escapedAfter, ih]

/-- A character other than the backslash, itself not escaped, escapes nothing. -/
theorem escapedAfter_cons {c : Char} (hc : c ≠ '\\') (rest : Text) :
    escapedAfter false (c :: rest) = escapedAfter false rest := by
  rw [escapedAfter, decide_eq_false hc]

/-- A scan that has put `c` before its first part has gone on without it. -/
theorem map_consFirst_eq_some {c : Char} {split : Option (Text × Text)} {first second : Text}
    (h : split.map (consFirst c) = some (first, second)) :
    ∃ first', split = some (first', second) ∧ first = c :: first' := by
  obtain ⟨⟨first', second'⟩, hsplit, heq⟩ := Option.map_eq_some_iff.1 h
  simp only [consFirst, Prod.mk.injEq] at heq
  exact ⟨first', by rw [hsplit, heq.2], heq.1.symm⟩

/-- The text before the first `ch` that is not escaped leaves nothing escaped. -/
theorem escapedAfter_of_splitUnescaped {ch : Char} {escaped : Bool} {text before rest : Text}
    (h : splitUnescaped ch escaped text = some (before, rest)) :
    escapedAfter escaped before = false := by
  induction text generalizing escaped before with
  | nil => simp [splitUnescaped] at h
  | cons c text ih =>
    cases escaped with
    | true =>
      rw [splitUnescaped] at h
      obtain ⟨before', hsplit, rfl⟩ := map_consFirst_eq_some h
      rw [escapedAfter]
      exact ih hsplit
    | false =>
      rw [splitUnescaped] at h
      split at h
      · rename_i hc
        obtain ⟨before', hsplit, rfl⟩ := map_consFirst_eq_some h
        rw [escapedAfter, decide_eq_true hc]
        exact ih hsplit
      · rename_i hc
        split at h
        · simp only [Option.some.injEq, Prod.mk.injEq] at h
          rw [← h.1, escapedAfter]
        · obtain ⟨before', hsplit, rfl⟩ := map_consFirst_eq_some h
          rw [escapedAfter_cons hc]
          exact ih hsplit

/-- A character that is not escaped is found, there or earlier. -/
theorem splitUnescaped_append_cons {ch : Char} (hch : ch ≠ '\\') {escaped : Bool}
    {before : Text} (h : escapedAfter escaped before = false) (rest : Text) :
    (splitUnescaped ch escaped (before ++ ch :: rest)).isSome := by
  induction before generalizing escaped with
  | nil =>
    rw [escapedAfter] at h
    rw [h, List.nil_append, splitUnescaped, if_neg hch, if_pos rfl]
    rfl
  | cons c before ih =>
    rw [List.cons_append]
    cases escaped with
    | true =>
      rw [escapedAfter] at h
      rw [splitUnescaped, Option.isSome_map]
      exact ih h
    | false =>
      rw [escapedAfter] at h
      rw [splitUnescaped]
      by_cases hc : c = '\\'
      · rw [if_pos hc, Option.isSome_map]
        exact ih (by rwa [decide_eq_true hc] at h)
      · rw [if_neg hc]
        split
        · rfl
        · rw [Option.isSome_map]
          exact ih (by rwa [decide_eq_false hc] at h)

/-- **A text has a `ch` that is not escaped exactly when some `ch` of it has a text before
it that leaves nothing escaped.** -/
theorem hasUnescaped_iff {ch : Char} (hch : ch ≠ '\\') {text : Text} :
    hasUnescaped ch text = true ↔
      ∃ before rest, text = before ++ ch :: rest ∧ escapedAfter false before = false := by
  constructor
  · intro h
    obtain ⟨⟨before, rest⟩, hsplit⟩ := Option.isSome_iff_exists.1 h
    obtain ⟨happend, hhead⟩ := splitUnescaped_eq_some hsplit
    obtain ⟨rest', rfl⟩ := List.head?_eq_some_iff.1 hhead
    exact ⟨before, rest', happend.symm, escapedAfter_of_splitUnescaped hsplit⟩
  · rintro ⟨before, rest, rfl, h⟩
    exact splitUnescaped_append_cons hch h rest

/-! ## Spans and their texts -/

/-- Different insides rebuild different texts. -/
theorem rewrap_injective (span : Span) : Function.Injective span.rewrap := by
  intro inner inner' h
  simpa [rewrap] using h

/-- So a new inside makes a new text. -/
theorem rewrap_ne (span : Span) {text inner : Text} (hwhole : span.rewrap span.inside = text)
    (hne : inner ≠ span.inside) : span.rewrap inner ≠ text := by
  rw [← hwhole]
  exact fun heq => hne (span.rewrap_injective heq)

/-- A span that is closed begins with its opening bracket and rebuilds the text from there
on. -/
theorem rewrap_inside_of_close {text before lead rest : Text} {opening closing : Char}
    {span : Span} (hopening : opening ≠ '\\')
    (h : close text before lead (opening :: rest) opening closing = .ok span) :
    span.rewrap span.inside = before ++ lead ++ opening :: rest ∧
      span.before = before ∧ span.lead = lead ∧
      span.opening = opening ∧ span.closing = closing := by
  rw [close] at h
  split at h
  · rename_i part after hsplit
    obtain rfl := Except.ok.inj h
    refine ⟨?_, rfl, rfl, rfl, rfl⟩
    have happend := splitClosing_eq_some hsplit
    -- the scan puts the opening bracket into the part before it looks for the closing one
    rw [splitClosing, if_neg hopening, if_pos rfl] at hsplit
    obtain ⟨part', -, rfl⟩ := map_consFirst_eq_some hsplit
    rw [← happend]
    simp [rewrap]
  · cases h

/-- **The first span rebuilds its text,** and the text before it leaves nothing escaped. -/
theorem rewrap_inside_of_focusFirst {text : Text} {opening closing : Char} {span : Span}
    (hopening : opening ≠ '\\') (h : focusFirst text opening closing = .ok span) :
    span.rewrap span.inside = text ∧ escapedAfter false span.before = false ∧
      span.lead = [] ∧ span.opening = opening ∧ span.closing = closing := by
  rw [focusFirst] at h
  split at h
  · rename_i before rest hsplit
    obtain ⟨happend, hhead⟩ := splitUnescaped_eq_some hsplit
    obtain ⟨rest', rfl⟩ := List.head?_eq_some_iff.1 hhead
    obtain ⟨hrewrap, hbefore, hlead, hopen, hclose⟩ := rewrap_inside_of_close hopening h
    refine ⟨?_, ?_, hlead, hopen, hclose⟩
    · rw [hrewrap, List.append_nil, happend]
    · rw [hbefore]
      exact escapedAfter_of_splitUnescaped hsplit
  · cases h

/-- A text with a first span has an opening bracket. -/
theorem hasUnescaped_of_focusFirst {text : Text} {opening closing : Char} {span : Span}
    (h : focusFirst text opening closing = .ok span) : hasUnescaped opening text = true := by
  rw [focusFirst] at h
  split at h
  · rename_i before rest hsplit
    rw [hasUnescaped, hsplit]
    rfl
  · cases h

/-- Where a span is not closed the brackets of the text do not pair up. -/
theorem eq_of_close_eq_error {text before lead rest : Text} {opening closing : Char}
    {error : ScriptError} (h : close text before lead rest opening closing = .error error) :
    error = .malformedBracket opening closing text := by
  rw [close] at h
  split at h
  · cases h
  · exact (Except.error.inj h).symm

/-- Nor do they where there is no first span. -/
theorem eq_of_focusFirst_eq_error {text : Text} {opening closing : Char} {error : ScriptError}
    (h : focusFirst text opening closing = .error error) :
    error = .malformedBracket opening closing text := by
  rw [focusFirst] at h
  split at h
  · exact eq_of_close_eq_error h
  · exact (Except.error.inj h).symm

/-! ## Calls -/

/-- A character that is no letter is the lower case of itself only. -/
theorem toLower_eq_iff {c sign : Char} (hsign : sign.isAlpha = false) :
    c.toLower = sign ↔ c = sign := by
  have hself {d : Char} (hd : d.isAlpha = false) : d.toLower = d := by
    have hupper : d.isUpper = false := (Bool.or_eq_false_iff.1 hd).1
    exact Char.toLower_eq_of_not_isUpper (by simp [hupper])
  constructor
  · rintro rfl
    rw [Char.isAlpha_toLower_eq_isAlpha] at hsign
    exact (hself hsign).symm
  · rintro rfl
    exact hself hsign

/-- **A name is called nowhere in a text exactly when it is empty, or in lower case and
followed by the parenthesis it is no infix of the text in lower case.** -/
theorem findCall?_eq_none_iff {text name : Text} :
    findCall? text name '(' = none ↔
      name = [] ∨ ¬ name.map Char.toLower ++ ['('] <:+: text.map Char.toLower := by
  rw [findCall?]
  split
  · rename_i hname
    simp [hname]
  · rename_i hname
    rw [Text.findFolded?_eq_none_iff]
    simp [hname]

/-- In a text without opening parentheses nothing is called. -/
theorem findCall?_of_not_mem {text : Text} (h : '(' ∉ text) (name : Text) :
    findCall? text name '(' = none := by
  refine findCall?_eq_none_iff.2 (.inr fun hcall => h ?_)
  have hparen : '(' ∈ text.map Char.toLower := hcall.subset (by simp)
  obtain ⟨c, hc, hlower⟩ := List.mem_map.1 hparen
  rwa [(toLower_eq_iff (by decide)).1 hlower] at hc

/-- A text that begins with a call of the name has its first call there. -/
theorem findCall?_append {name lead : Text} (hname : name ≠ [])
    (hlead : lead.map Char.toLower = name.map Char.toLower) (rest : Text) :
    findCall? (lead ++ '(' :: rest) name '(' = some ⟨[], lead ++ ['('], rest⟩ := by
  have hpiece : (lead ++ ['(']).map Char.toLower = name.map Char.toLower ++ ['('] := by
    rw [List.map_append, hlead]
    rfl
  rw [findCall?, if_neg hname, List.append_cons lead]
  exact Text.findFolded?_append hpiece rest

/-- A text with a first call has a call. -/
theorem isSome_findCall?_of_focusCall {text name : Text} {opening closing : Char} {span : Span}
    (h : focusCall text name opening closing = .ok span) :
    (findCall? text name opening).isSome = true := by
  rw [focusCall] at h
  split at h
  · rename_i call hfind
    rw [hfind]
    rfl
  · cases h

/-- Where there is no first call the parentheses of the text do not pair up. -/
theorem eq_of_focusCall_eq_error {text name : Text} {opening closing : Char}
    {error : ScriptError} (h : focusCall text name opening closing = .error error) :
    error = .malformedBracket opening closing text := by
  rw [focusCall] at h
  split at h
  · exact eq_of_close_eq_error h
  · exact (Except.error.inj h).symm

/-- **What stands behind the first call does not matter:** it is the first one before any other text
as well. -/
theorem findCall?_replace_after {text name : Text} {opening : Char} {call : Text.Occurrence}
    (h : findCall? text name opening = some call) (after : Text) :
    findCall? (call.before ++ (call.piece ++ after)) name opening =
      some { call with after := after } := by
  rw [findCall?] at h ⊢
  split at h
  · cases h
  · rename_i hname
    rw [if_neg hname]
    exact Text.findFolded?_replace_after h after

/-- A call that is found is closed from its parenthesis on, which stands where the name ends. -/
theorem focusCall_of_findCall? {text name before lead after : Text}
    (h : findCall? text name '(' = some ⟨before, lead ++ ['('], after⟩)
    (hlength : lead.length = name.length) :
    focusCall text name '(' ')' = close text before lead ('(' :: after) '(' ')' := by
  rw [focusCall, h]
  simp only [List.take_left' hlength, List.drop_left' hlength, List.singleton_append]

/-- **A call that is focused has been found:** the name in some case and the parenthesis. -/
theorem findCall?_of_focusCall {text name : Text} {span : Span}
    (h : focusCall text name '(' ')' = .ok span) :
    ∃ after, findCall? text name '(' = some ⟨span.before, span.lead ++ ['('], after⟩ ∧
      name ≠ [] ∧ span.lead.map Char.toLower = name.map Char.toLower ∧
      close text span.before span.lead ('(' :: after) '(' ')' = .ok span := by
  obtain ⟨⟨before, piece, after⟩, hfind⟩ :=
    Option.isSome_iff_exists.1 (isSome_findCall?_of_focusCall h)
  have hfolded := hfind
  rw [findCall?] at hfolded
  split at hfolded
  · cases hfolded
  · rename_i hname
    -- the piece is the name in some case with the parenthesis after it
    obtain ⟨lead, paren, rfl, hlead, hparen⟩ :=
      List.map_eq_append_iff.1 (Text.map_piece_of_findFolded? hfolded)
    obtain ⟨c, rfl, hc⟩ := List.map_eq_singleton_iff.1 hparen
    obtain rfl := (toLower_eq_iff (by decide)).1 hc
    rw [focusCall_of_findCall? hfind (by simpa using congrArg List.length hlead)] at h
    obtain ⟨-, rfl, rfl, -⟩ := rewrap_inside_of_close (by decide) h
    exact ⟨after, hfind, hname, hlead, h⟩

/-- **The first call rebuilds its text,** and what leads to it is the name in some case. -/
theorem rewrap_inside_of_focusCall {text name : Text} {span : Span}
    (h : focusCall text name '(' ')' = .ok span) :
    span.rewrap span.inside = text ∧ name ≠ [] ∧
      span.lead.map Char.toLower = name.map Char.toLower ∧
      span.opening = '(' ∧ span.closing = ')' := by
  obtain ⟨after, hfind, hname, hlead, hclose⟩ := findCall?_of_focusCall h
  obtain ⟨hrewrap, -, -, hopening, hclosing⟩ := rewrap_inside_of_close (by decide) hclose
  refine ⟨?_, hname, hlead, hopening, hclosing⟩
  rw [findCall?, if_neg hname] at hfind
  rw [hrewrap, ← Text.whole_of_findFolded? hfind, Text.Occurrence.whole]
  simp

end MapScript.Span
