/-
Where the first span of a text stands.

A character is escaped when an odd number of backslashes stands directly before it
(`EscapedAt`). This is a matter of the text alone. The two scans that find a span do not look
back; each carries a flag, and the second one starts with a fresh flag in the middle of the text.
The flag is the parity of the run of backslashes (`escapedAfter_iff_odd`), and the bracket at
which the second scan starts is not escaped, so both see the same brackets as the definition.

The nesting from one position to another is the number of opening brackets that are not escaped
less the number of closing ones (`nesting`). The counter of the second scan is this number at
every position that the scan comes to, and it is positive there (`closingFrom_run`): so the scan
never closes a bracket where none is open, and it ends where the nesting is zero for the first
time. The span that is focused is therefore the one between these two positions
(`focusFirst_firstSpan`).
-/
import MapScript.Proofs.Balance

set_option autoImplicit false

namespace MapScript.Span

/-! ## Escaped characters -/

/-- The number of backslashes that stand directly before the end of a text. -/
def backslashRun (before : Text) : Nat := (before.reverse.takeWhile (· = '\\')).length

/-- **An escaped position:** an odd number of backslashes stands directly before it. -/
def EscapedAt (text : Text) (i : Nat) : Prop := Odd (backslashRun (text.take i))

instance (text : Text) (i : Nat) : Decidable (EscapedAt text i) :=
  inferInstanceAs (Decidable (Odd _))

/-- A `c` that is not escaped stands at a position. -/
def UnescapedAt (c : Char) (text : Text) (i : Nat) : Prop := text[i]? = some c ∧ ¬ EscapedAt text i

instance (c : Char) (text : Text) (i : Nat) : Decidable (UnescapedAt c text i) :=
  inferInstanceAs (Decidable (_ ∧ _))

/-- A backslash makes the run longer, and every other character ends it. -/
theorem backslashRun_concat (before : Text) (c : Char) :
    backslashRun (before ++ [c]) = if c = '\\' then backslashRun before + 1 else 0 := by
  rw [backslashRun, backslashRun, List.reverse_concat, List.takeWhile_cons]
  by_cases hc : c = '\\' <;> simp [hc]

/-- A backslash that is not escaped escapes the character after it, and nothing else does. -/
theorem escapedAfter_concat (escaped : Bool) (before : Text) (c : Char) :
    escapedAfter escaped (before ++ [c]) = (!escapedAfter escaped before && decide (c = '\\')) := by
  rw [escapedAfter_append]
  cases escapedAfter escaped before <;> simp [escapedAfter]

/-- **The flag of a scan is the parity of the run of backslashes.** -/
theorem escapedAfter_iff_odd (before : Text) :
    escapedAfter false before = true ↔ Odd (backslashRun before) := by
  induction before using List.reverseRecOn with
  | nil => simp [escapedAfter, backslashRun]
  | append_singleton before c ih =>
    rw [escapedAfter_concat, backslashRun_concat]
    by_cases hc : c = '\\'
    · rw [if_pos hc, Nat.odd_add_one, ← ih]
      simp [hc]
    · rw [if_neg hc]
      simp [hc]

/-- A position is escaped exactly when a reading of the text before it says so. -/
theorem escapedAfter_take (text : Text) (i : Nat) :
    escapedAfter false (text.take i) = decide (EscapedAt text i) := by
  rw [Bool.eq_iff_iff, escapedAfter_iff_odd, decide_eq_true_iff, EscapedAt]

/-- At the next position the flag has taken in the character. -/
theorem escapedAfter_take_succ {text : Text} {i : Nat} {c : Char} (hc : text[i]? = some c) :
    escapedAfter false (text.take (i + 1)) =
      (!decide (EscapedAt text i) && decide (c = '\\')) := by
  rw [List.take_add_one, hc, Option.toList_some, escapedAfter_concat, escapedAfter_take]

/-- **A character that is not escaped cuts its text** into one that leaves nothing escaped, and
the rest. -/
theorem unescapedAt_iff {c : Char} {text : Text} {i : Nat} :
    UnescapedAt c text i ↔ escapedAfter false (text.take i) = false ∧
      text = text.take i ++ c :: text.drop (i + 1) := by
  rw [UnescapedAt, escapedAfter_take, decide_eq_false_iff_not, and_comm]
  refine and_congr_right fun _ => ⟨?_, ?_⟩
  · intro hc
    obtain ⟨hlt, hget⟩ := List.getElem?_eq_some_iff.1 hc
    rw [← hget, ← List.drop_eq_getElem_cons hlt, List.take_append_drop]
  · intro htext
    have hlt : i < text.length := by
      by_contra hle
      have hlength := congrArg List.length htext
      simp at hlength
      omega
    rw [htext, List.getElem?_append_right (by simp)]
    simp [Nat.min_eq_left hlt.le]

/-! ## The opening bracket -/

/-- **A text has an opening bracket that is not escaped exactly when it has one somewhere.** -/
theorem hasUnescaped_iff_exists {c : Char} (hc : c ≠ '\\') {text : Text} :
    hasUnescaped c text = true ↔ ∃ i, UnescapedAt c text i := by
  rw [hasUnescaped_iff hc]
  constructor
  · rintro ⟨before, rest, rfl, hescaped⟩
    refine ⟨before.length, unescapedAt_iff.2 ?_⟩
    simpa using hescaped
  · rintro ⟨i, hi⟩
    obtain ⟨hescaped, htext⟩ := unescapedAt_iff.1 hi
    exact ⟨_, _, htext, hescaped⟩

/-- What stands before a position is escaped there as it is in the whole text. -/
theorem unescapedAt_take {c : Char} {text : Text} {i p : Nat}
    (h : UnescapedAt c (text.take p) i) : i < p ∧ UnescapedAt c text i := by
  obtain ⟨hlt, -⟩ := List.getElem?_eq_some_iff.1 h.1
  have hip : i < p := by
    rw [List.length_take] at hlt
    omega
  refine ⟨hip, ?_, ?_⟩
  · rw [← List.getElem?_take_of_lt hip]
    exact h.1
  · have hescaped := h.2
    rwa [EscapedAt, List.take_take, min_eq_left hip.le] at hescaped

/-- **The scan for the opening bracket cuts the text at the first one that is not escaped.** -/
theorem splitUnescaped_of_first {c : Char} (hc : c ≠ '\\') {text : Text} {p : Nat}
    (hp : UnescapedAt c text p) (hfirst : ∀ i < p, ¬ UnescapedAt c text i) :
    splitUnescaped c false text = some (text.take p, c :: text.drop (p + 1)) := by
  obtain ⟨hescaped, htext⟩ := unescapedAt_iff.1 hp
  have hnone : splitUnescaped c false (text.take p) = none := by
    rw [← Option.not_isSome_iff_eq_none]
    intro hsome
    obtain ⟨i, hi⟩ := (hasUnescaped_iff_exists hc).1 hsome
    obtain ⟨hip, hi'⟩ := unescapedAt_take hi
    exact hfirst i hip hi'
  have hsplit := splitUnescaped_append hc hnone hescaped (text.drop (p + 1))
  rwa [← htext] at hsplit

/-! ## Nesting -/

/-- The number of `c` that are not escaped, from a position up to but not including another. -/
def unescapedCount (c : Char) (text : Text) (start stop : Nat) : Nat :=
  ((Finset.Ico start stop).filter (UnescapedAt c text)).card

/-- **The nesting from one position to another:** the opening brackets between them that are not
escaped less the closing ones. -/
def nesting (opening closing : Char) (text : Text) (start stop : Nat) : Int :=
  unescapedCount opening text start stop - unescapedCount closing text start stop

variable {opening closing : Char} {text : Text} {p i : Nat}

/-- Nothing is nested in no text. -/
theorem nesting_self : nesting opening closing text p p = 0 := by
  simp [nesting, unescapedCount]

/-- A position counts one where a `c` stands that is not escaped. -/
theorem unescapedCount_succ (c : Char) (h : p ≤ i) :
    unescapedCount c text p (i + 1) =
      unescapedCount c text p i + if UnescapedAt c text i then 1 else 0 := by
  rw [unescapedCount, unescapedCount, ← Finset.insert_Ico_right_eq_Ico_add_one h,
    Finset.filter_insert]
  split
  · exact Finset.card_insert_of_notMem (by simp)
  · rfl

/-- An opening bracket that is not escaped makes the nesting deeper. -/
theorem nesting_succ_of_opening (hpair : Pair opening closing) (h : p ≤ i)
    (hi : UnescapedAt opening text i) :
    nesting opening closing text p (i + 1) = nesting opening closing text p i + 1 := by
  have hclosing : ¬ UnescapedAt closing text i :=
    fun hclosing => hpair.distinct (Option.some.inj (hclosing.1.symm.trans hi.1))
  rw [nesting, unescapedCount_succ _ h, unescapedCount_succ _ h, if_pos hi, if_neg hclosing,
    nesting]
  push_cast
  ring

/-- A closing bracket that is not escaped makes it less deep. -/
theorem nesting_succ_of_closing (hpair : Pair opening closing) (h : p ≤ i)
    (hi : UnescapedAt closing text i) :
    nesting opening closing text p (i + 1) = nesting opening closing text p i - 1 := by
  have hopening : ¬ UnescapedAt opening text i :=
    fun hopening => hpair.distinct (Option.some.inj (hi.1.symm.trans hopening.1))
  rw [nesting, unescapedCount_succ _ h, unescapedCount_succ _ h, if_pos hi, if_neg hopening,
    nesting]
  push_cast
  ring

/-- Every other character leaves it as it is. -/
theorem nesting_succ_of_other (h : p ≤ i) (hopening : ¬ UnescapedAt opening text i)
    (hclosing : ¬ UnescapedAt closing text i) :
    nesting opening closing text p (i + 1) = nesting opening closing text p i := by
  rw [nesting, unescapedCount_succ _ h, unescapedCount_succ _ h, if_neg hopening,
    if_neg hclosing, nesting, Nat.add_zero, Nat.add_zero]

/-! ## The closing bracket -/

/-- **The scan for the closing bracket where it has come to a position,** with so many brackets
open. -/
def closingFrom (opening closing : Char) (text : Text) (i depth : Nat) : Option (Text × Text) :=
  splitClosing opening closing (escapedAfter false (text.take i)) depth (text.drop i)

/-- The scan at a position looks at the character there. -/
theorem closingFrom_eq {c : Char} (hc : text[i]? = some c) (depth : Nat) :
    closingFrom opening closing text i depth =
      splitClosing opening closing (decide (EscapedAt text i)) depth (c :: text.drop (i + 1)) := by
  obtain ⟨hlt, rfl⟩ := List.getElem?_eq_some_iff.1 hc
  rw [closingFrom, escapedAfter_take, List.drop_eq_getElem_cons hlt]

/-- At the next position the flag has taken in the character. -/
theorem closingFrom_succ {c : Char} (hc : text[i]? = some c) (depth : Nat) :
    closingFrom opening closing text (i + 1) depth =
      splitClosing opening closing (!decide (EscapedAt text i) && decide (c = '\\')) depth
        (text.drop (i + 1)) := by
  rw [closingFrom, escapedAfter_take_succ hc]

section Steps

variable (hpair : Pair opening closing)

include hpair

/-- It passes an opening bracket and counts it. -/
theorem closingFrom_of_opening (hi : UnescapedAt opening text i) (depth : Nat) :
    closingFrom opening closing text i depth =
      (closingFrom opening closing text (i + 1) (depth + 1)).map (consFirst opening) := by
  rw [closingFrom_eq hi.1, closingFrom_succ hi.1, decide_eq_false hi.2,
    decide_eq_false hpair.opening_ne]
  exact splitClosing_opening hpair.opening_ne depth _

/-- It passes a closing bracket while more than one is open. -/
theorem closingFrom_of_closing (hi : UnescapedAt closing text i) (depth : Nat) :
    closingFrom opening closing text i (depth + 2) =
      (closingFrom opening closing text (i + 1) (depth + 1)).map (consFirst closing) := by
  rw [closingFrom_eq hi.1, closingFrom_succ hi.1, decide_eq_false hi.2,
    decide_eq_false hpair.closing_ne]
  exact splitClosing_closing hpair.closing_ne hpair.distinct depth _

/-- It stops at a closing bracket that closes the last one. -/
theorem closingFrom_of_last (hi : UnescapedAt closing text i) :
    closingFrom opening closing text i 1 = some ([], text.drop (i + 1)) := by
  rw [closingFrom_eq hi.1, decide_eq_false hi.2, splitClosing, if_neg hpair.closing_ne,
    if_neg hpair.distinct, if_pos rfl]

end Steps

/-- It passes every other character, and every one that is escaped. -/
theorem closingFrom_of_other {c : Char} (hc : text[i]? = some c)
    (hopening : ¬ UnescapedAt opening text i) (hclosing : ¬ UnescapedAt closing text i)
    (depth : Nat) :
    closingFrom opening closing text i depth =
      (closingFrom opening closing text (i + 1) depth).map (consFirst c) := by
  rw [closingFrom_eq hc, closingFrom_succ hc]
  by_cases hescaped : EscapedAt text i
  · rw [decide_eq_true hescaped]
    rfl
  · have hopen : c ≠ opening := fun heq => hopening ⟨heq ▸ hc, hescaped⟩
    have hclose : c ≠ closing := fun heq => hclosing ⟨heq ▸ hc, hescaped⟩
    rw [decide_eq_false hescaped]
    by_cases hback : c = '\\'
    · rw [decide_eq_true hback, hback]
      exact splitClosing_backslash depth _
    · rw [decide_eq_false hback]
      exact splitClosing_other hback hopen hclose depth _

/-- **One step of the scan.** Where its counter is the nesting it is so at the next position, unless
the bracket that closes the last one stands here; and then it is positive. -/
theorem closingFrom_step (hpair : Pair opening closing) (hpi : p ≤ i) {c : Char}
    (hc : text[i]? = some c) {depth : Nat} (hdepth : nesting opening closing text p i = depth)
    (hpos : 0 < depth ∨ UnescapedAt opening text i)
    (hne : nesting opening closing text p (i + 1) ≠ 0) :
    0 < nesting opening closing text p (i + 1) ∧
      closingFrom opening closing text i depth =
        (closingFrom opening closing text (i + 1)
          (nesting opening closing text p (i + 1)).toNat).map (consFirst c) := by
  by_cases hopening : UnescapedAt opening text i
  · obtain rfl := Option.some.inj (hopening.1.symm.trans hc)
    have hnext : nesting opening closing text p (i + 1) = (depth + 1 : Nat) := by
      rw [nesting_succ_of_opening hpair hpi hopening, hdepth, Nat.cast_succ]
    rw [hnext, Int.toNat_natCast]
    exact ⟨by omega, closingFrom_of_opening hpair hopening depth⟩
  · have hpositive : 0 < depth := hpos.resolve_right hopening
    by_cases hclosing : UnescapedAt closing text i
    · obtain rfl := Option.some.inj (hclosing.1.symm.trans hc)
      have hless := nesting_succ_of_closing hpair hpi hclosing
      -- one bracket at least stays open, or the nesting would be zero
      obtain ⟨depth, rfl⟩ : ∃ more, depth = more + 2 := ⟨depth - 2, by omega⟩
      have hnext : nesting opening closing text p (i + 1) = (depth + 1 : Nat) := by
        omega
      rw [hnext, Int.toNat_natCast]
      exact ⟨by omega, closingFrom_of_closing hpair hclosing depth⟩
    · have hnext : nesting opening closing text p (i + 1) = depth := by
        rw [nesting_succ_of_other hpi hopening hclosing, hdepth]
      rw [hnext, Int.toNat_natCast]
      exact ⟨by omega, closingFrom_of_other hc hopening hclosing depth⟩

/-- **A position that the scan comes to:** the nesting has not been zero since the bracket at which
the scan began. -/
def Reached (opening closing : Char) (text : Text) (p i : Nat) : Prop :=
  p < i ∧ i ≤ text.length ∧ ∀ j, p < j → j ≤ i → nesting opening closing text p j ≠ 0

/-- A part of a text that has become one character longer. -/
theorem drop_take_succ {c : Char} (hpi : p ≤ i) (hc : text[i]? = some c) :
    (text.take (i + 1)).drop p = (text.take i).drop p ++ [c] := by
  obtain ⟨hlt, -⟩ := List.getElem?_eq_some_iff.1 hc
  rw [List.take_add_one, hc, Option.toList_some, List.drop_append_of_le_length]
  rw [List.length_take]
  omega

/-- **The counter of the scan is the nesting, and it is positive,** at every position that the scan
comes to. The part that it has passed stands before what it finds from there on. -/
theorem closingFrom_run (hpair : Pair opening closing) (hp : UnescapedAt opening text p)
    (hreached : Reached opening closing text p i) :
    0 < nesting opening closing text p i ∧
      closingFrom opening closing text p 0 =
        (closingFrom opening closing text i (nesting opening closing text p i).toNat).map
          (Prod.map ((text.take i).drop p ++ ·) id) := by
  -- a character that is passed stands behind the part that has been passed before
  have hpass {c : Char} (part : Text) (split : Option (Text × Text)) :
      (split.map (consFirst c)).map (Prod.map (part ++ ·) id) =
        split.map (Prod.map (part ++ [c] ++ ·) id) := by
    cases split <;> simp [consFirst, Prod.map]
  obtain ⟨hpi, hi, hne⟩ := hreached
  induction i, hpi using Nat.le_induction with
  | base =>
    have hzero : nesting opening closing text p p = (0 : Nat) := nesting_self
    obtain ⟨hpositive, hstep⟩ := closingFrom_step hpair le_rfl hp.1 hzero (.inr hp)
      (hne (p + 1) (by omega) le_rfl)
    refine ⟨hpositive, ?_⟩
    rw [hstep, drop_take_succ le_rfl hp.1, ← hpass, List.drop_take, Nat.sub_self, List.take_zero]
    exact (Option.map_id' ..).symm
  | succ i hpi ih =>
    obtain ⟨hpositive, hrun⟩ := ih (by omega) fun j hpj hji => hne j hpj (by omega)
    have hc : text[i]? = some text[i] := List.getElem?_eq_getElem (by omega)
    have hdepth : nesting opening closing text p i =
        ((nesting opening closing text p i).toNat : Nat) := by omega
    obtain ⟨hnext, hstep⟩ := closingFrom_step hpair (by omega) hc hdepth (.inl (by omega))
      (hne (i + 1) (by omega) le_rfl)
    refine ⟨hnext, ?_⟩
    rw [hrun, hstep, hpass, drop_take_succ (by omega) hc]

/-- The scan begins at its opening bracket with nothing open. -/
theorem closingFrom_start (hp : UnescapedAt opening text p) :
    closingFrom opening closing text p 0 =
      splitClosing opening closing false 0 (opening :: text.drop (p + 1)) := by
  rw [closingFrom_eq hp.1, decide_eq_false hp.2]

/-- Where the nesting is not zero again behind the opening bracket it is not zero at all: directly
behind that bracket it is one. -/
theorem nesting_ne_zero (hpair : Pair opening closing) (hp : UnescapedAt opening text p) {q : Nat}
    (hne : ∀ i < q, p < i → nesting opening closing text p (i + 1) ≠ 0) {i : Nat} (hpi : p < i)
    (hiq : i ≤ q) : nesting opening closing text p i ≠ 0 := by
  obtain ⟨before, rfl⟩ := Nat.exists_eq_succ_of_ne_zero (Nat.ne_zero_of_lt hpi)
  rcases Nat.lt_or_ge p before with hlt | hge
  · exact hne before (by omega) hlt
  · obtain rfl : before = p := by omega
    rw [nesting_succ_of_opening hpair le_rfl hp, nesting_self]
    decide

/-- So the scan comes that far. -/
theorem reached_of_opening (hpair : Pair opening closing) (hp : UnescapedAt opening text p)
    {q : Nat} (hq : q ≤ text.length)
    (hne : ∀ i < q, p < i → nesting opening closing text p (i + 1) ≠ 0) (hpq : p < q) :
    Reached opening closing text p q :=
  ⟨hpq, hq, fun _ hpj hjq => nesting_ne_zero hpair hp hne hpj hjq⟩

/-! ## The first span -/

/-- **The first span of a text by its positions.** Its opening bracket is the first one that is not
escaped, and its closing bracket stands where the nesting, counted from there, is zero again for
the first time. -/
structure FirstSpan (opening closing : Char) (text : Text) (p q : Nat) : Prop where
  opens : UnescapedAt opening text p
  first : ∀ i < p, ¬ UnescapedAt opening text i
  lt : p < q
  closes : nesting opening closing text p (q + 1) = 0
  nested : ∀ i < q, p < i → nesting opening closing text p (i + 1) ≠ 0

namespace FirstSpan

variable {q : Nat}

/-- Its closing bracket stands in the text: behind the text the nesting stays as it is. -/
theorem lt_length (hpair : Pair opening closing) (h : FirstSpan opening closing text p q) :
    q < text.length := by
  by_contra hle
  have hend : text[q]? = none := List.getElem?_eq_none (by omega)
  have hopening : ¬ UnescapedAt opening text q := fun hq => by cases hend.symm.trans hq.1
  have hclosing : ¬ UnescapedAt closing text q := fun hq => by cases hend.symm.trans hq.1
  refine nesting_ne_zero hpair h.opens h.nested h.lt le_rfl ?_
  rw [← nesting_succ_of_other h.lt.le hopening hclosing]
  exact h.closes

/-- The scan comes to it. -/
theorem reached (hpair : Pair opening closing) (h : FirstSpan opening closing text p q) :
    Reached opening closing text p q :=
  reached_of_opening hpair h.opens (h.lt_length hpair).le h.nested h.lt

/-- At the closing bracket just one bracket is open. -/
theorem closing_at (hpair : Pair opening closing) (h : FirstSpan opening closing text p q) :
    UnescapedAt closing text q ∧ nesting opening closing text p q = 1 := by
  have hpositive := (closingFrom_run hpair h.opens (h.reached hpair)).1
  have hzero := h.closes
  have hopening : ¬ UnescapedAt opening text q := by
    intro hopening
    rw [nesting_succ_of_opening hpair h.lt.le hopening] at hzero
    omega
  have hclosing : UnescapedAt closing text q := by
    by_contra hclosing
    rw [nesting_succ_of_other h.lt.le hopening hclosing] at hzero
    omega
  rw [nesting_succ_of_closing hpair h.lt.le hclosing] at hzero
  exact ⟨hclosing, by omega⟩

/-- **The scan from the opening bracket ends at the closing one.** -/
theorem splitClosing_eq (hpair : Pair opening closing) (h : FirstSpan opening closing text p q) :
    splitClosing opening closing false 0 (opening :: text.drop (p + 1)) =
      some (opening :: (text.take q).drop (p + 1), text.drop (q + 1)) := by
  obtain ⟨hclosing, hone⟩ := h.closing_at hpair
  have hrun := (closingFrom_run hpair h.opens (h.reached hpair)).2
  have hopening : (text.take q)[p]? = some opening := by
    rw [List.getElem?_take_of_lt h.lt]
    exact h.opens.1
  obtain ⟨hlt, hget⟩ := List.getElem?_eq_some_iff.1 hopening
  rw [hone, Int.toNat_one, closingFrom_of_last hpair hclosing, closingFrom_start h.opens,
    List.drop_eq_getElem_cons hlt, hget] at hrun
  rw [hrun]
  simp

end FirstSpan

/-- **Without a closing bracket the scan comes to the end of the text.** -/
theorem splitClosing_of_unclosed (hpair : Pair opening closing) (hp : UnescapedAt opening text p)
    (hne : ∀ i, p < i → nesting opening closing text p (i + 1) ≠ 0) :
    splitClosing opening closing false 0 (opening :: text.drop (p + 1)) = none := by
  obtain ⟨hlt, -⟩ := List.getElem?_eq_some_iff.1 hp.1
  have hreached := reached_of_opening hpair hp le_rfl (fun i _ hpi => hne i hpi) hlt
  have hrun := (closingFrom_run hpair hp hreached).2
  rw [← closingFrom_start hp, hrun, closingFrom, List.drop_length]
  cases escapedAfter false (text.take text.length) <;> rfl

/-- **The span that is focused is the first one of the text.** What is inside of it closes what it
opens. -/
theorem focusFirst_of_firstSpan (hpair : Pair opening closing) {q : Nat}
    (h : FirstSpan opening closing text p q) :
    focusFirst text opening closing =
        .ok ⟨text.take p, [], (text.take q).drop (p + 1), text.drop (q + 1), opening, closing⟩ ∧
      Balanced opening closing ((text.take q).drop (p + 1)) := by
  have hopen := splitUnescaped_of_first hpair.opening_ne h.opens h.first
  have hclose := h.splitClosing_eq hpair
  refine ⟨?_, ?_⟩
  · rw [focusFirst, hopen]
    simp only [close, hclose, List.drop_succ_cons, List.drop_zero]
  · rw [splitClosing_opening hpair.opening_ne] at hclose
    obtain ⟨part, hpart, heq⟩ := map_consFirst_eq_some hclose
    rw [(List.cons.inj heq).2]
    exact balancedFrom_of_splitClosing hpart

/-- **A text without a first span has no brackets that pair up.** -/
theorem focusFirst_of_no_firstSpan (hpair : Pair opening closing)
    (h : ¬ ∃ p q, FirstSpan opening closing text p q) :
    focusFirst text opening closing = .error (.malformedBracket opening closing text) := by
  classical
  by_cases hopening : ∃ p, UnescapedAt opening text p
  · -- the first opening bracket is never closed, or it and its partner would be the first span
    have hp := Nat.find_spec hopening
    have hfirst : ∀ i < Nat.find hopening, ¬ UnescapedAt opening text i :=
      fun i hi => Nat.find_min hopening hi
    have hopen := splitUnescaped_of_first hpair.opening_ne hp hfirst
    have hne : ∀ i, Nat.find hopening < i →
        nesting opening closing text (Nat.find hopening) (i + 1) ≠ 0 := by
      intro i hpi hzero
      have hclosing : ∃ q, Nat.find hopening < q ∧
          nesting opening closing text (Nat.find hopening) (q + 1) = 0 := ⟨i, hpi, hzero⟩
      obtain ⟨hlt, hcloses⟩ := Nat.find_spec hclosing
      exact h ⟨_, _, hp, hfirst, hlt, hcloses,
        fun j hj hpj hjzero => Nat.find_min hclosing hj ⟨hpj, hjzero⟩⟩
    rw [focusFirst, hopen]
    simp only [close, splitClosing_of_unclosed hpair hp hne]
  · have hnone : splitUnescaped opening false text = none := by
      rw [← Option.not_isSome_iff_eq_none]
      exact fun hsome => hopening ((hasUnescaped_iff_exists hpair.opening_ne).1 hsome)
    rw [focusFirst, hnone]

/-- **The first span of a text is exactly the one between the positions that say so.**

* Where `p` and `q` are the positions of its brackets, the span has the text up to `p` before it, no
  name, the text between `p` and `q` inside and the text after `q` behind it. These parts with the
  brackets are the text, the part before has no opening bracket that is not escaped, and the inside
  closes what it opens.
* Where there are no such positions the brackets of the text do not pair up.
* The counter of the scan is the nesting, and positive, wherever the scan comes to: it never counts
  below zero. -/
theorem focusFirst_firstSpan (hpair : Pair opening closing) (text : Text) :
    (∀ p q, FirstSpan opening closing text p q →
      focusFirst text opening closing =
          .ok ⟨text.take p, [], (text.take q).drop (p + 1), text.drop (q + 1), opening, closing⟩ ∧
        text.take p ++ opening :: ((text.take q).drop (p + 1) ++ closing :: text.drop (q + 1)) =
          text ∧
        (∀ i, ¬ UnescapedAt opening (text.take p) i) ∧
        Balanced opening closing ((text.take q).drop (p + 1))) ∧
    ((¬ ∃ p q, FirstSpan opening closing text p q) →
      focusFirst text opening closing = .error (.malformedBracket opening closing text)) ∧
    (∀ p i, UnescapedAt opening text p → Reached opening closing text p i →
      0 < nesting opening closing text p i ∧
        closingFrom opening closing text p 0 =
          (closingFrom opening closing text i (nesting opening closing text p i).toNat).map
            (Prod.map ((text.take i).drop p ++ ·) id)) := by
  refine ⟨?_, focusFirst_of_no_firstSpan hpair, ?_⟩
  · intro p q h
    obtain ⟨hfocus, hinside⟩ := focusFirst_of_firstSpan hpair h
    obtain ⟨hwhole, -⟩ := rewrap_inside_of_focusFirst hpair.opening_ne hfocus
    refine ⟨hfocus, ?_, ?_, hinside⟩
    · simpa [rewrap] using hwhole
    · intro i hi
      obtain ⟨hip, hi'⟩ := unescapedAt_take hi
      exact h.first i hip hi'
  · exact fun p i hp hreached => closingFrom_run hpair hp hreached

/-- The first brace is escaped by one backslash, and the second one is not by two. Inside there is
another pair, and a closing brace that is escaped. -/
theorem focusFirst_firstSpan_escaped :
    Pair '\x7b' '\x7d' ∧
    FirstSpan '\x7b' '\x7d' "\\\x7b\\\\\x7bé\x7bb\x7d\\\x7d\x7dc".toList 4 11 ∧
    focusFirst "\\\x7b\\\\\x7bé\x7bb\x7d\\\x7d\x7dc".toList '\x7b' '\x7d' =
      .ok ⟨"\\\x7b\\\\".toList, [], "é\x7bb\x7d\\\x7d".toList, "c".toList, '\x7b', '\x7d'⟩ := by
  have hspan : FirstSpan '\x7b' '\x7d' "\\\x7b\\\\\x7bé\x7bb\x7d\\\x7d\x7dc".toList 4 11 :=
    ⟨by decide, by decide, by decide, by decide, by decide⟩
  exact ⟨.braces, hspan, ((focusFirst_firstSpan .braces _).1 4 11 hspan).1⟩

end MapScript.Span
