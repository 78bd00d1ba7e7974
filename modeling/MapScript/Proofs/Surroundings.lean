/-
What stands around the spans of a text.

The evaluation of expressions rescans the whole text after each replacement, and a value may
bring braces and backslashes that change which brackets of the rest pair up. Still there are two
parts that no replacement reaches, whatever the values are. The part before the first opening
brace that is not escaped has no span, nor can it come to have one, since no later part changes
what is escaped in it (`before_of_focusFirst`). The part after the last closing brace has nothing
that a span could end with (`after_of_focusFirst`). A span that is found lies between the two, so
replacing it or its inside leaves them where they are, and they are of the same kind in the new
text (`Rewrite.math_between`).
-/
import MapScript.Proofs.Focus
import MapScript.Proofs.Rewriting

set_option autoImplicit false

namespace MapScript

/-- A character of a text has a last place in it. -/
theorem Text.exists_last {c : Char} {text : Text} (h : c ∈ text) :
    ∃ before after, text = before ++ c :: after ∧ c ∉ after := by
  obtain ⟨after, before, hreverse, hnot⟩ := List.eq_append_cons_of_mem (List.mem_reverse.2 h)
  refine ⟨before.reverse, after.reverse, ?_, by simpa using hnot⟩
  simpa using congrArg List.reverse hreverse

/-! ## Where a span lies -/

namespace Span

variable {opening closing : Char} {span : Span}

/-- **A part without opening brackets stands before the first span.** -/
theorem before_of_focusFirst (hopening : opening ≠ '\\') {front rest : Text}
    (hfront : hasUnescaped opening front = false)
    (hfocus : focusFirst (front ++ rest) opening closing = .ok span) :
    ∃ kept, span.before = front ++ kept := by
  obtain ⟨hwhole, hescaped, hlead, hopen, -⟩ := rewrap_inside_of_focusFirst hopening hfocus
  simp only [rewrap, hlead, hopen, List.append_nil, List.append_assoc, List.cons_append] at hwhole
  rcases List.append_eq_append_iff.1 hwhole with ⟨part, hpart, hrest⟩ | ⟨kept, hkept, -⟩
  · -- the opening bracket of the span would stand in the part
    cases part with
    | nil => exact ⟨[], by simpa using hpart.symm⟩
    | cons c part =>
      obtain rfl := (List.cons.inj hrest).1
      have hhas := (hasUnescaped_iff hopening).2 ⟨span.before, part, hpart, hescaped⟩
      rw [hfront] at hhas
      cases hhas
  · exact ⟨kept, hkept⟩

/-- **A part without closing brackets stands behind every span.** -/
theorem after_of_focusFirst (hopening : opening ≠ '\\') {rest back : Text}
    (hback : closing ∉ back) (hfocus : focusFirst (rest ++ back) opening closing = .ok span) :
    ∃ kept, span.after = kept ++ back := by
  obtain ⟨hwhole, -, -, -, hclose⟩ := rewrap_inside_of_focusFirst hopening hfocus
  rw [rewrap, hclose, List.append_cons] at hwhole
  rcases List.append_eq_append_iff.1 hwhole with ⟨kept, -, hkept⟩ | ⟨part, hpart, hrest⟩
  · exact ⟨kept, hkept⟩
  · -- the closing bracket of the span would stand in the part
    cases part using List.reverseRecOn with
    | nil => exact ⟨[], by simpa using hrest.symm⟩
    | append_singleton part c =>
      rw [← List.append_assoc] at hpart
      obtain rfl : closing = c := by simpa using (List.append_inj' hpart rfl).2
      exact absurd (by simp [hrest]) hback

end Span

namespace Rewrite

variable {evaluate : Evaluator} {config : Config} {depth : Nat} {input : Text} {rewrite : Rewrite}

/-! ## What stays -/

/-- **What stands before and behind all spans stays,** whatever becomes of the text between. -/
theorem math_between {front middle back : Text} (hfront : Span.hasUnescaped '\x7b' front = false)
    (hback : '\x7d' ∉ back)
    (h : math evaluate config depth (front ++ middle ++ back) = .ok rewrite) :
    ∃ middle', rewrite.output = front ++ middle' ++ back := by
  -- a span that is found has the part before it and the part behind it
  have hspan {middle : Text} {span : Span}
      (hfocus : Span.focusFirst (front ++ middle ++ back) '\x7b' '\x7d' = .ok span) :
      ∃ before after, span.before = front ++ before ∧ span.after = after ++ back := by
    obtain ⟨after, hafter⟩ := Span.after_of_focusFirst (by decide) hback hfocus
    rw [List.append_assoc] at hfocus
    obtain ⟨before, hbefore⟩ := Span.before_of_focusFirst (by decide) hfront hfocus
    exact ⟨before, after, hbefore, hafter⟩
  refine math_induction (P := fun text out => ∀ middle, text = front ++ middle ++ back →
    ∃ middle', out = front ++ middle' ++ back) ?_ ?_ ?_ h middle rfl
  · exact fun text middle htext => ⟨middle, htext⟩
  · intro text span value out hfocus hvalue hout middle htext
    rw [htext] at hfocus
    obtain ⟨before, after, hbefore, hafter⟩ := hspan hfocus
    refine hout (before ++ value ++ after) ?_
    simp only [Span.splice, hbefore, hafter, List.append_assoc]
  · intro text span inner hfocus hinner middle htext
    rw [htext] at hfocus
    obtain ⟨before, after, hbefore, hafter⟩ := hspan hfocus
    refine ⟨before ++ span.lead ++ span.opening :: inner ++ span.closing :: after, ?_⟩
    simp only [Span.rewrap, hbefore, hafter, List.append_assoc, List.cons_append]

/-- **A change begins at a first span.** -/
theorem exists_focusFirst_of_math (h : math evaluate config depth input = .ok rewrite)
    (hchanged : rewrite.changed = true) :
    ∃ span, Span.focusFirst input '\x7b' '\x7d' = .ok span := by
  have hne := (changed_iff_of_math h).1 hchanged
  refine math_induction (P := fun text out => out ≠ text →
    ∃ span, Span.focusFirst text '\x7b' '\x7d' = .ok span) ?_ ?_ ?_ h hne
  · exact fun text hne => absurd rfl hne
  · exact fun hfocus _ _ _ => ⟨_, hfocus⟩
  · exact fun hfocus _ _ => ⟨_, hfocus⟩

/-- **The evaluation of expressions touches nothing outside of its spans.** A text that it changes
has an opening brace that is not escaped and a closing brace somewhere behind it. What stands before
the first such opening brace and what stands behind the last closing brace, escaped or not, are in
the new text what they were, whatever the values are that have been put between them. -/
theorem math_keeps_surroundings (h : math evaluate config depth input = .ok rewrite)
    (hchanged : rewrite.changed = true) :
    ∃ front middle back middle', input = front ++ '\x7b' :: (middle ++ '\x7d' :: back) ∧
      Span.UnescapedAt '\x7b' input front.length ∧
      (∀ i < front.length, ¬ Span.UnescapedAt '\x7b' input i) ∧
      '\x7d' ∉ back ∧ rewrite.output = front ++ middle' ++ back := by
  obtain ⟨span, hfocus⟩ := exists_focusFirst_of_math h hchanged
  obtain ⟨hwhole, hescaped, hlead, hopen, hclose⟩ :=
    Span.rewrap_inside_of_focusFirst (by decide) hfocus
  have hfront := Span.hasUnescaped_before_of_focusFirst (by decide) hfocus
  have hclosing : '\x7d' ∈ span.inside ++ '\x7d' :: span.after := by simp
  obtain ⟨middle, back, hlast, hback⟩ := Text.exists_last hclosing
  have hinput : input = span.before ++ '\x7b' :: (middle ++ '\x7d' :: back) := by
    rw [← hlast, ← hwhole, Span.rewrap, hlead, hopen, hclose, List.append_nil, List.append_assoc,
      List.cons_append]
  have hparts : input = span.before ++ ('\x7b' :: (middle ++ ['\x7d'])) ++ back := by
    simpa using hinput
  rw [hparts] at h
  obtain ⟨middle', hout⟩ := math_between hfront hback h
  refine ⟨span.before, middle, back, middle', hinput, ?_, ?_, hback, hout⟩
  · refine Span.unescapedAt_iff.2 ?_
    rw [hinput]
    simpa using hescaped
  · -- an earlier opening brace would be one of the part before the span
    intro i hi hearlier
    have hbefore : Span.UnescapedAt '\x7b' span.before i := by
      refine ⟨?_, ?_⟩
      · rw [← hearlier.1, hinput, List.getElem?_append_left hi]
      · have hnot := hearlier.2
        rwa [hinput, Span.EscapedAt, List.take_append_of_le_length hi.le] at hnot
    rw [(Span.hasUnescaped_iff_exists (by decide)).2 ⟨i, hbefore⟩] at hfront
    cases hfront

/-- The value of the first span is a backslash, so the second brace is escaped and its span is no
span any more. The letters at both ends stay. -/
theorem math_keeps_surroundings_backslash :
    math (fun _ => .ok ['\\']) ⟨1, 2, 0, false⟩ 0 "a\x7b1\x7d\x7b2\x7db\x7dc".toList =
      .ok ⟨true, "a\\\x7b2\x7db\x7dc".toList⟩ ∧
    ∃ front middle back middle', "a\x7b1\x7d\x7b2\x7db\x7dc".toList =
        front ++ '\x7b' :: (middle ++ '\x7d' :: back) ∧
      Span.UnescapedAt '\x7b' "a\x7b1\x7d\x7b2\x7db\x7dc".toList front.length ∧
      (∀ i < front.length, ¬ Span.UnescapedAt '\x7b' "a\x7b1\x7d\x7b2\x7db\x7dc".toList i) ∧
      '\x7d' ∉ back ∧ "a\\\x7b2\x7db\x7dc".toList = front ++ middle' ++ back := by
  have hmath : math (fun _ => .ok ['\\']) ⟨1, 2, 0, false⟩ 0 "a\x7b1\x7d\x7b2\x7db\x7dc".toList =
      .ok ⟨true, "a\\\x7b2\x7db\x7dc".toList⟩ := eq_ok_of_toOption (by decide +kernel)
  exact ⟨hmath, math_keeps_surroundings hmath rfl⟩

end Rewrite

end MapScript
