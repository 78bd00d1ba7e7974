/-
Focusing a text and putting a new inside into it.

The two ways of focusing and `Span.rewrap` obey the laws of reading and writing a part of a whole.
What is read and written back gives the text again, what is written is read again, and different
insides give different texts (`focus_rewrap`).

The second law needs that what is written closes what it opens, and it needs nothing else. The
search for the opening bracket does not look at what stands behind it, so it comes to the same place
whatever is written there (`Kind.focus_rewrap_eq_close`). From there the scan passes a text that
closes what it opens, and comes to the old closing bracket; and what is inside of a span always
closes what it opens (`balanced_of_close`).

That a text closes what it opens is said here position by position (`ClosesOwn`); the scan reads it
from the left (`balanced_iff_closesOwn`).
-/
import MapScript.Proofs.Focus

set_option autoImplicit false

namespace MapScript.Span

/-! ## Texts that close what they open -/

section Closing

variable {opening closing : Char} {text : Text} {i : Nat}

/-- **A text that closes what it opens.** Up to each position it has at most as many closing as
opening brackets, of those that are not escaped; in the whole it has as many; and it does not end in
the middle of an escape. -/
structure ClosesOwn (opening closing : Char) (text : Text) : Prop where
  covered : ∀ i ≤ text.length,
    unescapedCount closing text 0 i ≤ unescapedCount opening text 0 i
  closed : unescapedCount closing text 0 text.length = unescapedCount opening text 0 text.length
  complete : ¬ EscapedAt text text.length

/-- Whether the rest of a text from a position on closes what it opens and the `depth` brackets that
are open there. -/
def balancedAt (opening closing : Char) (text : Text) (i depth : Nat) : Bool :=
  balancedFrom opening closing (escapedAfter false (text.take i)) depth (text.drop i)

/-- At the end nothing may be open or escaped. -/
theorem balancedAt_length (depth : Nat) :
    balancedAt opening closing text text.length depth = true ↔
      ¬ EscapedAt text text.length ∧ depth = 0 := by
  rw [balancedAt, escapedAfter_take, List.drop_length, balancedFrom]
  simp

section Steps

variable {c : Char} (hc : text[i]? = some c)

include hc

/-- The reading at a position looks at the character there. -/
theorem balancedAt_eq (depth : Nat) :
    balancedAt opening closing text i depth =
      balancedFrom opening closing (decide (EscapedAt text i)) depth (c :: text.drop (i + 1)) := by
  obtain ⟨hlt, rfl⟩ := List.getElem?_eq_some_iff.1 hc
  rw [balancedAt, escapedAfter_take, List.drop_eq_getElem_cons hlt]

/-- At the next position its flag has taken in the character. -/
theorem balancedAt_succ (depth : Nat) :
    balancedAt opening closing text (i + 1) depth =
      balancedFrom opening closing (!decide (EscapedAt text i) && decide (c = '\\')) depth
        (text.drop (i + 1)) := by
  rw [balancedAt, escapedAfter_take_succ hc]

/-- A character that is no bracket, or is escaped, changes nothing. -/
theorem balancedAt_of_other (hopening : ¬ UnescapedAt opening text i)
    (hclosing : ¬ UnescapedAt closing text i) (depth : Nat) :
    balancedAt opening closing text i depth =
      balancedAt opening closing text (i + 1) depth := by
  rw [balancedAt_eq hc, balancedAt_succ hc]
  by_cases hescaped : EscapedAt text i
  · rw [decide_eq_true hescaped, balancedFrom]
    rfl
  · have hopen : c ≠ opening := fun heq => hopening ⟨heq ▸ hc, hescaped⟩
    have hclose : c ≠ closing := fun heq => hclosing ⟨heq ▸ hc, hescaped⟩
    rw [decide_eq_false hescaped, balancedFrom, if_neg hopen, if_neg hclose]
    by_cases hback : c = '\\' <;> simp [hback]

end Steps

/-- **One step of the reading.** Where what it counts is the nesting, the nesting at the next
position must not be less than zero, and the reading goes on with it. -/
theorem balancedAt_step (hpair : Pair opening closing) (hi : i < text.length) {depth : Nat}
    (hdepth : nesting opening closing text 0 i = depth) :
    balancedAt opening closing text i depth = true ↔
      0 ≤ nesting opening closing text 0 (i + 1) ∧
        balancedAt opening closing text (i + 1)
          (nesting opening closing text 0 (i + 1)).toNat = true := by
  have hc : text[i]? = some text[i] := List.getElem?_eq_getElem hi
  by_cases hopening : UnescapedAt opening text i
  · have hnext : nesting opening closing text 0 (i + 1) = (depth + 1 : Nat) := by
      rw [nesting_succ_of_opening hpair (Nat.zero_le i) hopening, hdepth, Nat.cast_succ]
    rw [hnext, Int.toNat_natCast, balancedAt_eq hopening.1, balancedAt_succ hopening.1,
      decide_eq_false hopening.2, decide_eq_false hpair.opening_ne, balancedFrom,
      if_neg hpair.opening_ne, if_pos rfl]
    exact (and_iff_right (by omega)).symm
  · by_cases hclosing : UnescapedAt closing text i
    · have hnext := nesting_succ_of_closing hpair (Nat.zero_le i) hclosing
      rw [balancedAt_eq hclosing.1, balancedAt_succ hclosing.1, decide_eq_false hclosing.2,
        decide_eq_false hpair.closing_ne, balancedFrom, if_neg hpair.closing_ne,
        if_neg hpair.distinct, if_pos rfl, Bool.and_eq_true, bne_iff_ne]
      have hless : (nesting opening closing text 0 (i + 1)).toNat = depth - 1 := by omega
      rw [hless]
      exact and_congr_left' (by omega)
    · have hnext := nesting_succ_of_other (Nat.zero_le i) hopening hclosing
      rw [balancedAt_of_other hc hopening hclosing, hnext, hdepth, Int.toNat_natCast]
      simp

/-- **The reading from a position on succeeds exactly when** the nesting is at no later position
less than zero, is zero at the end, and nothing is escaped there. -/
theorem balancedAt_iff (hpair : Pair opening closing) (hi : i ≤ text.length) {depth : Nat}
    (hdepth : nesting opening closing text 0 i = depth) :
    balancedAt opening closing text i depth = true ↔
      (∀ j, i ≤ j → j ≤ text.length → 0 ≤ nesting opening closing text 0 j) ∧
        nesting opening closing text 0 text.length = 0 ∧ ¬ EscapedAt text text.length := by
  induction hi using Nat.decreasingInduction generalizing depth with
  | self =>
    rw [balancedAt_length, hdepth]
    constructor
    · rintro ⟨hcomplete, rfl⟩
      refine ⟨?_, rfl, hcomplete⟩
      intro j hij hj
      obtain rfl : j = text.length := by omega
      omega
    · rintro ⟨-, hzero, hcomplete⟩
      exact ⟨hcomplete, by omega⟩
  | of_succ i hi ih =>
    rw [balancedAt_step hpair hi hdepth]
    constructor
    · rintro ⟨hnext, hrest⟩
      obtain ⟨hcovered, hclosed⟩ := (ih (Int.toNat_of_nonneg hnext).symm).1 hrest
      refine ⟨?_, hclosed⟩
      intro j hij hj
      rcases Nat.eq_or_lt_of_le hij with rfl | hlt
      · omega
      · exact hcovered j hlt hj
    · rintro ⟨hcovered, hclosed⟩
      have hnext := hcovered (i + 1) (by omega) hi
      exact ⟨hnext, (ih (Int.toNat_of_nonneg hnext).symm).2
        ⟨fun j hij hj => hcovered j (by omega) hj, hclosed⟩⟩

/-- **A text is balanced exactly when it closes what it opens.** -/
theorem balanced_iff_closesOwn (hpair : Pair opening closing) :
    Balanced opening closing text ↔ ClosesOwn opening closing text := by
  have hstart : nesting opening closing text 0 0 = (0 : Nat) := nesting_self
  have hread := balancedAt_iff hpair (Nat.zero_le text.length) hstart
  rw [balancedAt, List.take_zero, List.drop_zero, escapedAfter] at hread
  rw [Balanced, hread]
  unfold nesting
  constructor
  · rintro ⟨hcovered, hclosed, hcomplete⟩
    refine ⟨?_, by omega, hcomplete⟩
    intro j hj
    have hcount := hcovered j (Nat.zero_le j) hj
    omega
  · rintro ⟨hcovered, hclosed, hcomplete⟩
    refine ⟨?_, by omega, hcomplete⟩
    intro j _ hj
    have hcount := hcovered j hj
    omega

/-- **What is inside of a span closes what it opens.** -/
theorem balanced_of_close (hopening : opening ≠ '\\') {before lead rest : Text} {span : Span}
    (h : close text before lead (opening :: rest) opening closing = .ok span) :
    Balanced opening closing span.inside := by
  rw [close] at h
  split at h
  · rename_i part after hsplit
    obtain rfl := Except.ok.inj h
    rw [splitClosing_opening hopening] at hsplit
    obtain ⟨inside, hinside, rfl⟩ := map_consFirst_eq_some hsplit
    exact balancedFrom_of_splitClosing hinside
  · cases h

end Closing

/-! ## The ways of focusing -/

/-- **The two ways of focusing a text:** its first pair of braces, and the first call of a name. -/
inductive Kind where
  | braces
  | call (name : Text)
deriving DecidableEq

namespace Kind

/-- The opening bracket. -/
def opening : Kind → Char
  | braces => '\x7b'
  | call _ => '('

/-- The closing bracket. -/
def closing : Kind → Char
  | braces => '\x7d'
  | call _ => ')'

/-- The span that is focused. -/
def focus (kind : Kind) (text : Text) : Except ScriptError Span :=
  match kind with
  | braces => focusFirst text '\x7b' '\x7d'
  | call name => focusCall text name '(' ')'

/-- The brackets are a pair. -/
theorem pair (kind : Kind) : Pair kind.opening kind.closing := by
  cases kind with
  | braces => exact .braces
  | call name => exact .parentheses

variable {kind : Kind} {text : Text} {span : Span}

/-- **A span that is focused gives its text again.** -/
theorem rewrap_inside_of_focus (h : kind.focus text = .ok span) :
    span.rewrap span.inside = text ∧ span.opening = kind.opening ∧
      span.closing = kind.closing := by
  cases kind with
  | braces =>
    obtain ⟨hwhole, -, -, hopening, hclosing⟩ := rewrap_inside_of_focusFirst (by decide) h
    exact ⟨hwhole, hopening, hclosing⟩
  | call name =>
    obtain ⟨hwhole, -, -, hopening, hclosing⟩ := rewrap_inside_of_focusCall h
    exact ⟨hwhole, hopening, hclosing⟩

/-- **The search comes to the same bracket whatever is written behind it.** -/
theorem focus_rewrap_eq_close (h : kind.focus text = .ok span) (inner : Text) :
    kind.focus (span.rewrap inner) =
      close (span.rewrap inner) span.before span.lead
        (kind.opening :: (inner ++ kind.closing :: span.after)) kind.opening kind.closing := by
  obtain ⟨-, hopening, hclosing⟩ := rewrap_inside_of_focus h
  cases kind with
  | braces =>
    have hbefore := hasUnescaped_before_of_focusFirst (by decide) h
    obtain ⟨-, hescaped, hlead, -⟩ := rewrap_inside_of_focusFirst (by decide) h
    have hnone : splitUnescaped '\x7b' false span.before = none := by
      rw [hasUnescaped, Option.isSome_eq_false_iff, Option.isNone_iff_eq_none] at hbefore
      exact hbefore
    have hwhole : span.rewrap inner =
        span.before ++ '\x7b' :: (inner ++ '\x7d' :: span.after) := by
      rw [rewrap, hlead, hopening, hclosing]
      simp [Kind.opening, Kind.closing]
    have hsplit := splitUnescaped_append (by decide) hnone hescaped (inner ++ '\x7d' :: span.after)
    rw [← hwhole] at hsplit
    rw [focus, focusFirst, hsplit, hlead]
    rfl
  | call name =>
    obtain ⟨after, hfind, -, hlead, -⟩ := findCall?_of_focusCall h
    have hwhole : span.rewrap inner =
        span.before ++ (span.lead ++ ['('] ++ (inner ++ ')' :: span.after)) := by
      rw [rewrap, hopening, hclosing]
      simp [Kind.opening, Kind.closing]
    have hnew := findCall?_replace_after hfind (inner ++ ')' :: span.after)
    rw [← hwhole] at hnew
    exact focusCall_of_findCall? hnew (by simpa using congrArg List.length hlead)

/-- **What is written is read again exactly when it is balanced.** -/
theorem focus_rewrap_eq_ok_iff (h : kind.focus text = .ok span) (inner : Text) :
    kind.focus (span.rewrap inner) = .ok { span with inside := inner } ↔
      Balanced kind.opening kind.closing inner := by
  obtain ⟨-, hopening, hclosing⟩ := rewrap_inside_of_focus h
  rw [focus_rewrap_eq_close h]
  constructor
  · exact balanced_of_close kind.pair.opening_ne
  · intro hinner
    rw [close_of_balanced kind.pair _ _ _ hinner, ← hopening, ← hclosing]

/-- **Focusing and writing obey the laws of reading and writing a part of a whole.** Where a text is
focused,

* what is inside of the span, written back, gives the text again;
* a new inside that closes what it opens is read again, with everything around it as it was, and no
  other new inside is;
* different insides give different texts. -/
theorem focus_rewrap (h : kind.focus text = .ok span) :
    span.rewrap span.inside = text ∧
    (∀ inner, kind.focus (span.rewrap inner) = .ok { span with inside := inner } ↔
      ClosesOwn kind.opening kind.closing inner) ∧
    Function.Injective span.rewrap := by
  refine ⟨(rewrap_inside_of_focus h).1, ?_, span.rewrap_injective⟩
  intro inner
  rw [focus_rewrap_eq_ok_iff h, balanced_iff_closesOwn kind.pair]

/-- The call is behind a backslash and its name is in another case. What is written has a call of
the same name, a pair of parentheses and one that is escaped. A closing parenthesis alone is not
read again. -/
theorem focus_rewrap_call :
    Kind.focus (.call "f".toList) "\\F(g(x))f()".toList =
      .ok ⟨"\\".toList, "F".toList, "g(x)".toList, "f()".toList, '(', ')'⟩ ∧
    Kind.focus (.call "f".toList) "\\F(f()\\))f()".toList =
      .ok ⟨"\\".toList, "F".toList, "f()\\)".toList, "f()".toList, '(', ')'⟩ ∧
    Kind.focus (.call "f".toList) "\\F())f()".toList ≠
      .ok ⟨"\\".toList, "F".toList, ")".toList, "f()".toList, '(', ')'⟩ := by
  have hfocus : Kind.focus (.call "f".toList) "\\F(g(x))f()".toList =
      .ok ⟨"\\".toList, "F".toList, "g(x)".toList, "f()".toList, '(', ')'⟩ := by
    rfl
  have hwrite := (focus_rewrap hfocus).2.1
  refine ⟨hfocus, (hwrite "f()\\)".toList).2 ⟨by decide, by decide, by decide⟩, ?_⟩
  intro hread
  have hcovered := ((hwrite ")".toList).1 hread).covered 1 (by decide)
  revert hcovered
  decide

end Kind

end MapScript.Span
