/-
What the search for a piece of text finds.

A search compares folded characters, so it is a search for the pattern in the folded text:
it fails exactly when the pattern is no infix of that (`findFolded?_eq_none_iff`), and what
it finds reads as the pattern once it is folded (`map_piece_of_findFolded?`). It finds the
first place where that is so (`findFolded?_of_first`), and what stands behind this place does
not matter (`findFolded?_replace_after`). That the parts rebuild the text stands beside the
definitions.
-/
import MapScript.Text.Basic
import Mathlib.Data.List.Infix

set_option autoImplicit false

namespace MapScript.Text

/-! ## At the beginning of a text -/

/-- The beginning that is split off reads as the pattern. -/
theorem map_of_matchStart? {fold : Char → Char} {pattern text piece after : Text}
    (h : matchStart? fold pattern text = some (piece, after)) : piece.map fold = pattern := by
  induction pattern generalizing text piece with
  | nil =>
    simp only [matchStart?, Option.some.injEq, Prod.mk.injEq] at h
    simp [← h.1]
  | cons p pattern ih =>
    cases text with
    | nil => simp [matchStart?] at h
    | cons c text =>
      simp only [matchStart?] at h
      split at h
      · rename_i hc
        obtain ⟨⟨piece', after'⟩, hmatch, heq⟩ := Option.map_eq_some_iff.1 h
        simp only [Prod.mk.injEq] at heq
        obtain ⟨rfl, rfl⟩ := heq
        rw [List.map_cons, hc, ih hmatch]
      · cases h

/-- Nothing is split off exactly when the folded text does not begin with the pattern. -/
theorem matchStart?_eq_none_iff {fold : Char → Char} {pattern text : Text} :
    matchStart? fold pattern text = none ↔ ¬ pattern <+: text.map fold := by
  induction pattern generalizing text with
  | nil => simp [matchStart?]
  | cons p pattern ih =>
    cases text with
    | nil => simp [matchStart?]
    | cons c text =>
      rw [matchStart?, List.map_cons, List.cons_prefix_cons]
      by_cases hc : fold c = p
      · rw [if_pos hc, Option.map_eq_none_iff, ih]
        simp [hc]
      · rw [if_neg hc]
        simp [Ne.symm hc]

/-- A beginning that reads as the pattern is split off. -/
theorem matchStart?_append {fold : Char → Char} {pattern piece : Text}
    (h : piece.map fold = pattern) (rest : Text) :
    matchStart? fold pattern (piece ++ rest) = some (piece, rest) := by
  subst h
  induction piece with
  | nil => rfl
  | cons c piece ih =>
    rw [List.map_cons, List.cons_append, matchStart?, if_pos rfl, ih]
    rfl

/-! ## Anywhere in a text -/

/-- A text that begins with the pattern has its first occurrence there. -/
theorem findFolded?_append {fold : Char → Char} {pattern piece : Text}
    (h : piece.map fold = pattern) (rest : Text) :
    findFolded? fold pattern (piece ++ rest) = some ⟨[], piece, rest⟩ := by
  have hmatch := matchStart?_append h rest
  cases htext : piece ++ rest with
  | nil =>
    rw [htext] at hmatch
    rw [findFolded?, hmatch]
    rfl
  | cons c text =>
    rw [htext] at hmatch
    rw [findFolded?, hmatch]

/-- **A search fails exactly when the pattern is no infix of the folded text.** -/
theorem findFolded?_eq_none_iff {fold : Char → Char} {pattern text : Text} :
    findFolded? fold pattern text = none ↔ ¬ pattern <:+: text.map fold := by
  induction text with
  | nil => simp [findFolded?, matchStart?_eq_none_iff]
  | cons c text ih =>
    rw [List.map_cons, List.infix_cons_iff, ← List.map_cons, findFolded?, not_or, ← ih,
      ← matchStart?_eq_none_iff]
    cases matchStart? fold pattern (c :: text) <;> simp

/-- The piece that is found reads as the pattern. -/
theorem map_piece_of_findFolded? {fold : Char → Char} {pattern text : Text} {o : Occurrence}
    (h : findFolded? fold pattern text = some o) : o.piece.map fold = pattern := by
  induction text generalizing o with
  | nil =>
    obtain ⟨⟨piece, after⟩, hmatch, rfl⟩ := Option.map_eq_some_iff.1 h
    exact map_of_matchStart? hmatch
  | cons c rest ih =>
    simp only [findFolded?] at h
    split at h
    · rename_i piece after hmatch
      obtain rfl := Option.some.inj h
      exact map_of_matchStart? hmatch
    · obtain ⟨later, hlater, rfl⟩ := Option.map_eq_some_iff.1 h
      have hpiece := ih hlater
      exact hpiece

/-- **The first occurrence stands at the least position from which on the folded text begins with
the pattern.** -/
theorem findFolded?_of_first {fold : Char → Char} {pattern text : Text} {p : Nat}
    (hp : pattern <+: (text.drop p).map fold)
    (hfirst : ∀ i < p, ¬ pattern <+: (text.drop i).map fold) :
    findFolded? fold pattern text =
      some ⟨text.take p, (text.drop p).take pattern.length, (text.drop p).drop pattern.length⟩ := by
  induction p generalizing text with
  | zero =>
    obtain ⟨rest, hrest⟩ := hp
    obtain ⟨piece, after, htext, hpiece, -⟩ := List.map_eq_append_iff.1 hrest.symm
    have hlength : piece.length = pattern.length := by simpa using congrArg List.length hpiece
    rw [List.drop_zero] at htext
    rw [htext, findFolded?_append hpiece, List.take_zero, List.drop_zero,
      List.take_left' hlength, List.drop_left' hlength]
  | succ p ih =>
    cases text with
    | nil => exact absurd (by simpa using hp) (hfirst 0 (by omega))
    | cons c text =>
      have hnone : matchStart? fold pattern (c :: text) = none :=
        matchStart?_eq_none_iff.2 (hfirst 0 (by omega))
      have hlater := ih hp fun i hi => hfirst (i + 1) (by omega)
      rw [findFolded?, hnone]
      dsimp only
      rw [hlater]
      rfl

/-- **What stands behind the first occurrence does not matter:** it is the first one before any
other text as well. -/
theorem findFolded?_replace_after {fold : Char → Char} {pattern text : Text} {o : Occurrence}
    (h : findFolded? fold pattern text = some o) (after : Text) :
    findFolded? fold pattern (o.before ++ (o.piece ++ after)) =
      some { o with after := after } := by
  have hpiece := map_piece_of_findFolded? h
  induction text generalizing o with
  | nil =>
    obtain ⟨⟨piece, rest⟩, hmatch, rfl⟩ := Option.map_eq_some_iff.1 h
    exact findFolded?_append hpiece after
  | cons c text ih =>
    rw [findFolded?] at h
    split at h
    · obtain rfl := Option.some.inj h
      exact findFolded?_append hpiece after
    · rename_i hnone
      obtain ⟨later, hlater, rfl⟩ := Option.map_eq_some_iff.1 h
      -- a beginning as long as the pattern ends before the part that is replaced
      have hstart : matchStart? fold pattern (c :: (later.before ++ (later.piece ++ after))) =
          none := by
        rw [matchStart?_eq_none_iff] at hnone ⊢
        intro hprefix
        apply hnone
        have hlength : later.piece.length = pattern.length := by
          simpa using congrArg List.length hpiece
        have hshort : pattern <+: (c :: later.before ++ later.piece).map fold := by
          refine List.prefix_of_prefix_length_le hprefix ⟨after.map fold, by simp⟩ ?_
          simp
          omega
        rw [← whole_of_findFolded? hlater]
        exact hshort.trans ⟨later.after.map fold, by simp [Occurrence.whole]⟩
      rw [List.cons_append, findFolded?, hstart]
      dsimp only
      rw [ih hlater hpiece]
      rfl

/-- **A text has no occurrence exactly when the pattern is no infix of it.** -/
theorem find?_eq_none_iff {pattern text : Text} :
    find? pattern text = none ↔ ¬ pattern <:+: text := by
  rw [find?, findFolded?_eq_none_iff, List.map_id]

/-- An occurrence takes the text apart around the pattern. -/
theorem eq_append_of_find? {pattern text : Text} {o : Occurrence}
    (h : find? pattern text = some o) : text = o.before ++ pattern ++ o.after := by
  have hpiece : o.piece = pattern := by
    rw [← map_piece_of_findFolded? h, List.map_id]
  rw [← whole_of_findFolded? h, Occurrence.whole, hpiece]

end MapScript.Text
