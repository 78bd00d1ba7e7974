/-
Expressions side by side.

A run over the spans of a text looks for the first span anew after each replacement, in a text
that has become another one. Where the pieces between the spans open nothing and escape nothing,
and the values do not either, this comes to the same as going through the spans from left to
right: the part that is done is a text without opening braces (`Text.Unopened`), so the first
span of the text is the first one that is not done yet (`Sibling.focusFirst_render`).

So a run replaces spans as long as they evaluate and the budget allows it
(`Sibling.evaluateSpans_fill`), and it stops before the first one that is left
(`Sibling.evaluateSpans_stopped`). A run that has replaced one span has made another text, since
the brace of that span is gone, and such a run is kept however it was stopped
(`Sibling.math_siblings`).
-/
import MapScript.Proofs.Balance
import MapScript.Proofs.Convergence

set_option autoImplicit false

namespace MapScript

/-! ## Texts that open no span -/

/-- A text without opening braces and backslashes: it opens no span and escapes nothing. -/
def Text.Unopened (text : Text) : Prop := ∀ c ∈ text, c ≠ '\x7b' ∧ c ≠ '\\'

instance (text : Text) : Decidable text.Unopened :=
  List.decidableBAll (fun c => c ≠ '\x7b' ∧ c ≠ '\\') text

namespace Text.Unopened

/-- Two such texts are one together. -/
theorem append {left right : Text} (hleft : left.Unopened) (hright : right.Unopened) :
    Text.Unopened (left ++ right) :=
  List.forall_mem_append.2 ⟨hleft, hright⟩

/-- It has no brace. -/
theorem braces_eq_zero {text : Text} (h : text.Unopened) : text.braces = 0 :=
  List.count_eq_zero.2 fun hmem => (h _ hmem).1 rfl

/-- It has no span. -/
theorem hasUnescaped {text : Text} (h : text.Unopened) :
    Span.hasUnescaped '\x7b' text = false := Span.hasUnescaped_of_free h

end Text.Unopened

/-! ## Spans side by side -/

/-- **A span of braces and the text before it,** up to the span that comes before. -/
structure Sibling where
  before : Text
  inside : Text

namespace Sibling

open Rewrite

/-- The text of spans side by side, with a last text behind them. -/
def render (last : Text) : List Sibling → Text
  | [] => last
  | sibling :: rest => sibling.before ++ '\x7b' :: (sibling.inside ++ '\x7d' :: render last rest)

/-- The text of spans with a value in the place of each. -/
def fill : List Sibling → List Text → Text
  | sibling :: rest, value :: values => sibling.before ++ value ++ fill rest values
  | _, _ => []

/-- The values of spans, one for each. -/
def HaveValues (evaluate : Evaluator) (siblings : List Sibling) (values : List Text) : Prop :=
  List.Forall₂ (fun sibling value => evaluate sibling.inside = .ok value) siblings values

/-- **A span that stands apart from others:** the text before it opens nothing, the braces inside
it pair up, and its value, if it has one, opens nothing either. -/
structure Apart (evaluate : Evaluator) (sibling : Sibling) : Prop where
  before : sibling.before.Unopened
  inside : Span.Balanced '\x7b' '\x7d' sibling.inside
  value : ∀ value, evaluate sibling.inside = .ok value → value.Unopened

variable {evaluate : Evaluator} {config : Config}

/-! ### Braces -/

/-- Each span has a brace of its own. -/
theorem braces_render_cons (last : Text) (sibling : Sibling) (rest : List Sibling) :
    (render last rest).braces < (render last (sibling :: rest)).braces := by
  simp only [render, Text.braces, List.count_append, List.count_cons, beq_self_eq_true, if_true]
  omega

/-- So a text has more braces than what is left of it after some of its spans. -/
theorem braces_render_drop_lt (last : Text) {siblings : List Sibling} {count : Nat}
    (hpos : 0 < count) (hle : count ≤ siblings.length) :
    (render last (siblings.drop count)).braces < (render last siblings).braces := by
  induction siblings generalizing count with
  | nil => simp at hle; omega
  | cons sibling rest ih =>
    have hcons := braces_render_cons last sibling rest
    obtain ⟨count, rfl⟩ := Nat.exists_eq_succ_of_ne_zero hpos.ne'
    rw [List.drop_succ_cons]
    rcases Nat.eq_zero_or_pos count with rfl | hcount
    · exact hcons
    · exact (ih hcount (by simpa using hle)).trans hcons

/-- The part that is done opens nothing. -/
theorem unopened_fill {siblings : List Sibling} {values : List Text}
    (hapart : ∀ sibling ∈ siblings, sibling.Apart evaluate)
    (hvalues : HaveValues evaluate siblings values) : (fill siblings values).Unopened := by
  induction hvalues with
  | nil => exact fun c hc => absurd hc List.not_mem_nil
  | cons hvalue _ ih =>
    obtain ⟨hsibling, hrest⟩ := List.forall_mem_cons.1 hapart
    exact (hsibling.before.append (hsibling.value _ hvalue)).append (ih hrest)

/-! ### One span -/

/-- **The first span is the next one that is not done.** -/
theorem focusFirst_render (last : Text) {done : Text} (hdone : done.Unopened)
    {sibling : Sibling} (hapart : sibling.Apart evaluate) (rest : List Sibling) :
    Span.focusFirst (done ++ render last (sibling :: rest)) '\x7b' '\x7d' =
      .ok ⟨done ++ sibling.before, [], sibling.inside, render last rest, '\x7b', '\x7d'⟩ := by
  obtain ⟨hnone, hescaped⟩ := Span.splitUnescaped_of_free (hdone.append hapart.before)
  rw [render, ← List.append_assoc]
  exact Span.focusFirst_of_balanced .braces hnone hescaped hapart.inside _

/-! ### Runs -/

/-- **A run replaces spans that evaluate,** one for each step of its budget, and nothing else. -/
theorem evaluateSpans_fill (last : Text) {first : List Sibling} {values : List Text}
    (hapart : ∀ sibling ∈ first, sibling.Apart evaluate)
    (hvalues : HaveValues evaluate first values) {done : Text} (hdone : done.Unopened)
    (rest : List Sibling) (limit budget : Nat) :
    evaluateSpans evaluate limit (budget + first.length) (done ++ render last (first ++ rest)) =
      evaluateSpans evaluate limit budget (done ++ fill first values ++ render last rest) := by
  induction hvalues generalizing done with
  | nil => simp [fill]
  | @cons sibling value first values hvalue _ ih =>
    obtain ⟨hsibling, hfirst⟩ := List.forall_mem_cons.1 hapart
    have hnext : (done ++ sibling.before ++ value).Unopened :=
      (hdone.append hsibling.before).append (hsibling.value value hvalue)
    have hfocus := focusFirst_render last hdone hsibling (first ++ rest)
    rw [List.length_cons, ← Nat.add_assoc, List.cons_append, evaluateSpans_of_value hfocus hvalue,
      Span.splice, ih hfirst hnext, fill]
    simp only [List.append_assoc]

/-- **A run stops before a span that is left,** if its budget is used up or the span is refused,
and where no span is left. -/
theorem evaluateSpans_stopped {done last : Text} (hdone : done.Unopened)
    (hlast : last.Unopened) {rest : List Sibling}
    (hapart : ∀ sibling ∈ rest, sibling.Apart evaluate) (limit : Nat) {budget : Nat}
    (hstop : 0 < budget → ∀ sibling ∈ rest.head?,
      ∃ cause, evaluate sibling.inside = .error cause) :
    (evaluateSpans evaluate limit budget (done ++ render last rest)).text =
      done ++ render last rest := by
  cases rest with
  | nil =>
    rw [render, evaluateSpans_of_none (hdone.append hlast).hasUnescaped]
  | cons sibling rest =>
    obtain ⟨hsibling, -⟩ := List.forall_mem_cons.1 hapart
    cases budget with
    | zero =>
      rw [evaluateSpans]
      split <;> rfl
    | succ budget =>
      obtain ⟨cause, hcause⟩ := hstop (by omega) sibling rfl
      rw [evaluateSpans_of_refused (focusFirst_render last hdone hsibling rest) hcause]

/-! ### The result -/

/-- How many spans a run may replace and can: the first `count` ones evaluate, and the budget is
not smaller. -/
def Replaceable (evaluate : Evaluator) (config : Config) (siblings : List Sibling) (count : Nat) :
    Prop :=
  count ≤ min siblings.length config.maxExpansions ∧
    ∀ sibling ∈ siblings.take count, ∃ value, evaluate sibling.inside = .ok value

/-- Spans that all evaluate have values. -/
theorem exists_values {siblings : List Sibling}
    (h : ∀ sibling ∈ siblings, ∃ value, evaluate sibling.inside = .ok value) :
    ∃ values, HaveValues evaluate siblings values := by
  induction siblings with
  | nil => exact ⟨[], .nil⟩
  | cons sibling rest ih =>
    obtain ⟨⟨value, hvalue⟩, hrest⟩ := List.forall_mem_cons.1 h
    obtain ⟨values, hvalues⟩ := ih hrest
    exact ⟨value :: values, .cons hvalue hvalues⟩

/-- **Where as many spans as can be are replaced and the budget is not used up, the next span is
refused:** one more could be replaced otherwise. -/
theorem refused_of_greatest {siblings : List Sibling} {count : Nat}
    (hcount : IsGreatest {k | Replaceable evaluate config siblings k} count)
    (hbudget : count < config.maxExpansions) {sibling : Sibling}
    (hnext : sibling ∈ (siblings.drop count).head?) :
    ∃ cause, evaluate sibling.inside = .error cause := by
  obtain ⟨⟨hle, hvalues⟩, hgreatest⟩ := hcount
  rw [List.head?_drop] at hnext
  obtain ⟨hlength, -⟩ := List.getElem?_eq_some_iff.1 hnext
  cases hresult : evaluate sibling.inside with
  | error cause => exact ⟨cause, rfl⟩
  | ok value =>
    have hmore : Replaceable evaluate config siblings (count + 1) := by
      refine ⟨by omega, ?_⟩
      intro other hother
      rw [List.take_add_one, hnext] at hother
      rcases List.mem_append.1 hother with hbefore | hsame
      · exact hvalues other hbefore
      · obtain rfl := List.mem_singleton.1 hsame
        exact ⟨value, hresult⟩
    have hcontra := hgreatest hmore
    omega

section Greatest

variable {siblings : List Sibling} (hapart : ∀ sibling ∈ siblings, sibling.Apart evaluate)
  {count : Nat} (hcount : IsGreatest {k | Replaceable evaluate config siblings k} count)
  {values : List Text} (hvalues : HaveValues evaluate (siblings.take count) values)

include hapart hcount hvalues

/-- A run over the whole text replaces these spans and stops. -/
theorem evaluateSpans_render {last : Text} (hlast : last.Unopened) :
    (evaluateSpans evaluate config.maxExpansions config.maxExpansions
      (render last siblings)).text =
        fill (siblings.take count) values ++ render last (siblings.drop count) := by
  have hfirst : ∀ sibling ∈ siblings.take count, sibling.Apart evaluate :=
    fun sibling hmem => hapart sibling (List.mem_of_mem_take hmem)
  have hrest : ∀ sibling ∈ siblings.drop count, sibling.Apart evaluate :=
    fun sibling hmem => hapart sibling (List.mem_of_mem_drop hmem)
  have hle := hcount.1.1
  have hlength : (siblings.take count).length = count := List.length_take_of_le (by omega)
  have hbudget : config.maxExpansions - count + (siblings.take count).length =
      config.maxExpansions := by omega
  have hstart : Text.Unopened [] := by decide
  have hgo := evaluateSpans_fill last hfirst hvalues hstart (siblings.drop count)
    config.maxExpansions (config.maxExpansions - count)
  rw [hbudget, List.take_append_drop, List.nil_append, List.nil_append] at hgo
  rw [hgo]
  refine evaluateSpans_stopped (unopened_fill hfirst hvalues) hlast hrest _ ?_
  intro hleft sibling hnext
  exact refused_of_greatest hcount (by omega) hnext

/-- The braces of the spans that are replaced are gone, so the text is another one. -/
theorem fill_append_ne_render (last : Text) (hpos : 1 ≤ count) :
    fill (siblings.take count) values ++ render last (siblings.drop count) ≠
      render last siblings := by
  have hfirst : ∀ sibling ∈ siblings.take count, sibling.Apart evaluate :=
    fun sibling hmem => hapart sibling (List.mem_of_mem_take hmem)
  have hle : count ≤ siblings.length := hcount.1.1.trans (Nat.min_le_left _ _)
  have hzero := (unopened_fill hfirst hvalues).braces_eq_zero
  have hless := braces_render_drop_lt last hpos hle
  intro hsame
  have hbraces := congrArg Text.braces hsame
  simp only [Text.braces, List.count_append] at hzero hless hbraces
  omega

end Greatest

/-- **Spans side by side are evaluated from left to right up to the first that is refused,** or as
far as the budget goes. Where the first `count` spans are all that are replaced, and one at least,
the result is the text with their values in the place of these spans and all else as it was, and
it counts as changed, whatever stopped the run. -/
theorem math_siblings {siblings : List Sibling}
    (hapart : ∀ sibling ∈ siblings, sibling.Apart evaluate) {last : Text}
    (hlast : last.Unopened) {count : Nat}
    (hcount : IsGreatest {k | Replaceable evaluate config siblings k} count) (hpos : 1 ≤ count)
    {depth : Nat} (hdepth : depth ≤ config.maxDepth) :
    ∃ values, HaveValues evaluate (siblings.take count) values ∧
      math evaluate config depth (render last siblings) =
        .ok ⟨true, fill (siblings.take count) values ++ render last (siblings.drop count)⟩ := by
  obtain ⟨values, hvalues⟩ := exists_values hcount.1.2
  have hlevels : config.levelsAt depth = config.maxDepth - depth + 1 :=
    Nat.sub_add_comm hdepth
  have hrun := evaluateSpans_render hapart hcount hvalues hlast
  have hne := fill_append_ne_render hapart hcount hvalues last hpos
  rw [← hrun] at hne
  refine ⟨values, hvalues, ?_⟩
  rw [math, hlevels, mathWithin_of_ne hne, hrun]

/-- One span that evaluates, and one that is refused although the span inside it would not be. The
budget is not used up, and the second span stays as it is. -/
theorem math_siblings_refused :
    (∀ sibling ∈ [Sibling.mk "a".toList "true".toList,
      Sibling.mk "\x7d".toList "!\x7btrue\x7d".toList], sibling.Apart Expr.evaluate) ∧
    IsGreatest {k | Replaceable Expr.evaluate ⟨1, 2, 3, false⟩ [Sibling.mk "a".toList "true".toList,
      Sibling.mk "\x7d".toList "!\x7btrue\x7d".toList] k} 1 ∧
    math Expr.evaluate ⟨1, 2, 3, false⟩ 3 "a\x7btrue\x7d\x7d\x7b!\x7btrue\x7d\x7db".toList =
      .ok ⟨true, "atrue\x7d\x7b!\x7btrue\x7d\x7db".toList⟩ := by
  have htrue : Expr.evaluate "true".toList = .ok "true".toList :=
    eq_ok_of_toOption (by decide +kernel)
  obtain ⟨cause, hcause⟩ : ∃ cause, Expr.evaluate "!\x7btrue\x7d".toList = .error cause :=
    exists_error_of_toOption (by decide +kernel)
  have hapart : ∀ sibling ∈ [Sibling.mk "a".toList "true".toList,
      Sibling.mk "\x7d".toList "!\x7btrue\x7d".toList], sibling.Apart Expr.evaluate := by
    simp only [List.forall_mem_cons, List.not_mem_nil, false_imp_iff, implies_true, and_true]
    refine ⟨⟨by decide, by decide, ?_⟩, ⟨by decide, by decide, ?_⟩⟩
    · intro value hvalue
      obtain rfl := Except.ok.inj (htrue.symm.trans hvalue)
      decide
    · intro value hvalue
      cases hcause.symm.trans hvalue
  have hcount : IsGreatest {k | Replaceable Expr.evaluate ⟨1, 2, 3, false⟩
      [Sibling.mk "a".toList "true".toList,
        Sibling.mk "\x7d".toList "!\x7btrue\x7d".toList] k} 1 := by
    refine ⟨⟨by decide, ?_⟩, ?_⟩
    · intro sibling hmem
      obtain rfl := List.mem_singleton.1 hmem
      exact ⟨_, htrue⟩
    -- two spans would have to be all of them
    · rintro k ⟨hle, hall⟩
      by_contra hmore
      obtain rfl : k = 2 := by
        simp only [List.length_cons, List.length_nil] at hle
        omega
      obtain ⟨value, hvalue⟩ := hall ⟨"\x7d".toList, "!\x7btrue\x7d".toList⟩ (by simp)
      cases hcause.symm.trans hvalue
  have hlast : Text.Unopened "b".toList := by decide
  have hdepth : 3 ≤ Config.maxDepth ⟨1, 2, 3, false⟩ := by decide
  obtain ⟨values, hvalues, hmath⟩ := math_siblings hapart hlast hcount le_rfl hdepth
  refine ⟨hapart, hcount, ?_⟩
  cases hvalues with
  | cons hvalue hnone =>
    cases hnone
    obtain rfl := Except.ok.inj (htrue.symm.trans hvalue)
    exact hmath

end Sibling

end MapScript
