/-
Resolution as a rewriting of texts, and when a resolved text is fully resolved.

A single replacement puts the data of a variable in the place of its name, a value in the
place of an expression in braces, or an output in the place of a call (`Replaces`). Each way
of rewriting is a sequence of such replacements, and a text is fully resolved exactly when
it has none of the three things that can be replaced.

A strict resolution stops at a text that a pass leaves as it was. That says less than that
nothing was replaced: replacements that cancel within one pass leave the text as it was,
too. The main statement is that this is the only way in which a text that is not fully
resolved comes out: it does so exactly when the text lies on a cycle of replacements. The
reason is that a pass over a text on no cycle cannot leave it and come back
(`ways_of_passOver`).
-/
import MapScript.Proofs.Resolution
import MapScript.Proofs.Rewriting
import Mathlib.Logic.Relation

set_option autoImplicit false

namespace MapScript.Resolver

open Relation (ReflTransGen)

/-! ## Single replacements -/

/-- **A single replacement,** anywhere in a text: of an occurrence of a variable's name, of
an expression whose opening brace is not escaped, or of a call in any case. -/
inductive Replaces (resolver : Resolver Id) (scope : Scope) : Text → Text → Prop where
  | substituted {var : Variable} (hvar : var ∈ scope.toList) (hname : var.name ≠ [])
      (before after : Text) :
      Replaces resolver scope (before ++ var.name ++ after)
        (before ++ var.dataOrEmpty ++ after)
  | evaluated {before inside value : Text} (hbefore : Span.escapedAfter false before = false)
      (hvalue : resolver.evaluate inside = .ok value) (after : Text) :
      Replaces resolver scope (before ++ '\x7b' :: inside ++ '\x7d' :: after)
        (before ++ value ++ after)
  | called {name : Text} {function : Function Id}
      (hentry : (name, function) ∈ resolver.registry.entries) (hname : name ≠ [])
      {lead inside output : Text} (hlead : lead.map Char.toLower = name.map Char.toLower)
      (houtput : (function ⟨name, inside⟩).run = .ok output) (before after : Text) :
      Replaces resolver scope (before ++ lead ++ '(' :: inside ++ ')' :: after)
        (before ++ output ++ after)

variable {resolver : Resolver Id} {scope : Scope}

/-- A replacement in a part of a text is one in the text, if the part begins where nothing
is escaped. -/
theorem Replaces.within {text text' : Text} (h : resolver.Replaces scope text text')
    {before : Text} (hbefore : Span.escapedAfter false before = false) (after : Text) :
    resolver.Replaces scope (before ++ text ++ after) (before ++ text' ++ after) := by
  cases h with
  | substituted hvar hname b a =>
    have hwide : resolver.Replaces scope _ _ := .substituted hvar hname (before ++ b) (a ++ after)
    simpa using hwide
  | @evaluated b inside value hb hvalue a =>
    have hopen : Span.escapedAfter false (before ++ b) = false := by
      rw [Span.escapedAfter_append, hbefore, hb]
    have hwide : resolver.Replaces scope _ _ := .evaluated hopen hvalue (a ++ after)
    simpa using hwide
  | called hentry hname hlead houtput b a =>
    have hwide : resolver.Replaces scope _ _ :=
      .called hentry hname hlead houtput (before ++ b) (a ++ after)
    simpa using hwide

/-- So are several. -/
theorem replaces_within {text text' : Text}
    (h : ReflTransGen (resolver.Replaces scope) text text')
    {before : Text} (hbefore : Span.escapedAfter false before = false) (after : Text) :
    ReflTransGen (resolver.Replaces scope) (before ++ text ++ after)
      (before ++ text' ++ after) :=
  h.lift (fun part => before ++ part ++ after) fun _ _ hstep => hstep.within hbefore after

/-! ## Each way of rewriting is a sequence of replacements -/

/-- Substituting one variable is one, and the name is gone afterwards. -/
theorem replaces_of_substitute {var : Variable} (hvar : var ∈ scope.toList)
    (hname : var.name ≠ []) {limit budget : Nat} {text out : Text}
    (h : Rewrite.substitute limit var.name var.dataOrEmpty budget text = .ok out) :
    ReflTransGen (resolver.Replaces scope) text out ∧ ¬ var.name <:+: out :=
  Rewrite.substitute_induction (fun _ => .refl)
    (fun hout => .head (.substituted hvar hname _ _) hout) h

/-- Substituting the variables of a list is one. -/
theorem replaces_of_substituteAll {limit : Nat} {vars : List Variable}
    (hvars : vars ⊆ scope.toList) {text out : Text}
    (h : Rewrite.substituteAll limit vars text = .ok out) :
    ReflTransGen (resolver.Replaces scope) text out := by
  induction vars generalizing text with
  | nil =>
    obtain rfl := Except.ok.inj h
    exact .refl
  | cons var rest ih =>
    obtain ⟨hvar, hrest⟩ := List.cons_subset.1 hvars
    rw [Rewrite.substituteAll] at h
    split at h
    · exact ih hrest h
    · rename_i hname
      split at h
      · rename_i mid hmid
        exact (replaces_of_substitute hvar hname hmid).1.trans (ih hrest h)
      · cases h

/-- Evaluating the expressions is one. -/
theorem replaces_of_math {depth : Nat} {input : Text} {rewrite : Rewrite}
    (h : Rewrite.math resolver.evaluate resolver.config depth input = .ok rewrite) :
    ReflTransGen (resolver.Replaces scope) input rewrite.output := by
  refine Rewrite.math_induction (P := ReflTransGen (resolver.Replaces scope))
    (fun _ => .refl) ?_ ?_ h
  · intro text span value out hfocus hvalue hout
    obtain ⟨hwhole, hbefore, hlead, hopen, hclose⟩ :=
      Span.rewrap_inside_of_focusFirst (by decide) hfocus
    refine .head ?_ hout
    rw [← hwhole, Span.rewrap, Span.splice, hlead, hopen, hclose, List.append_nil]
    exact .evaluated hbefore hvalue span.after
  · intro text span inner hfocus hinner
    obtain ⟨hwhole, hbefore, hlead, hopen, hclose⟩ :=
      Span.rewrap_inside_of_focusFirst (by decide) hfocus
    have hopened : Span.escapedAfter false (span.before ++ ['\x7b']) = false := by
      rw [Span.escapedAfter_append, hbefore]
      rfl
    have hwide := replaces_within hinner hopened ('\x7d' :: span.after)
    rw [← hwhole, Span.rewrap, Span.rewrap, hlead, hopen, hclose]
    simpa using hwide

/-- Making the first call of a function is one replacement. -/
theorem replaces_of_focusCall {name : Text} {function : Function Id}
    (hentry : (name, function) ∈ resolver.registry.entries) {text : Text} {span : Span}
    (hfocus : Span.focusCall text name '(' ')' = .ok span) {output : Text}
    (houtput : (function ⟨name, span.inside⟩).run = .ok output) :
    resolver.Replaces scope text (span.splice output) := by
  obtain ⟨hwhole, hname, hlead, hopen, hclose⟩ := Span.rewrap_inside_of_focusCall hfocus
  rw [← hwhole, Span.rewrap, Span.splice, hopen, hclose]
  exact .called hentry hname hlead houtput span.before span.after

/-- Making the calls of one function, as far as that goes, is a sequence of replacements. -/
theorem replaces_of_invoke {name : Text} {function : Function Id}
    (hentry : (name, function) ∈ resolver.registry.entries) (limit budget : Nat) (text : Text) :
    ReflTransGen (resolver.Replaces scope) text
      (Rewrite.invoke limit name function budget text).run.text :=
  Rewrite.invoke_induction (fun _ => .refl)
    (fun hfocus houtput hout => .head (replaces_of_focusCall hentry hfocus houtput) hout)
    budget text

/-- Making the calls of several functions is one. -/
theorem replaces_of_invokeAll {entries : List (Text × Function Id)}
    (hentries : entries ⊆ resolver.registry.entries) (limit : Nat) (text : Text) :
    ReflTransGen (resolver.Replaces scope) text
      (Rewrite.invokeAll limit entries text).run.text :=
  Rewrite.invokeAll_induction (fun _ => .refl) (fun hleft hright => hleft.trans hright)
    (fun hentry hfocus houtput =>
      .single (replaces_of_focusCall (hentries hentry) hfocus houtput))
    limit text

/-- Making all calls of a text, or those inside its first call, is one. -/
theorem replaces_of_calls {depth : Nat} {input : Text} {rewrite : Rewrite}
    (h : (Rewrite.calls resolver.registry resolver.config depth input).run = .ok rewrite) :
    ReflTransGen (resolver.Replaces scope) input rewrite.output := by
  refine Rewrite.calls_induction (P := ReflTransGen (resolver.Replaces scope))
    (fun _ => .refl) (fun hleft hright => hleft.trans hright) ?_ ?_ h
  · intro name function text span output hentry hfocus houtput
    exact .single (replaces_of_focusCall hentry hfocus houtput)
  · intro name text span inner hfocus hinner
    obtain ⟨hwhole, -, -, hopen, hclose⟩ := Span.rewrap_inside_of_focusCall hfocus
    -- whatever stands before it, nothing is escaped after an opening parenthesis
    have hopened : Span.escapedAfter false (span.before ++ span.lead ++ ['(']) = false := by
      rw [Span.escapedAfter_append]
      cases Span.escapedAfter false (span.before ++ span.lead) <;> rfl
    have hwide := replaces_within hinner hopened (')' :: span.after)
    rw [← hwhole, Span.rewrap, Span.rewrap, hopen, hclose]
    simpa using hwide

/-! ## Fully resolved texts -/

variable (resolver scope) in
/-- **A text in which nothing is left to be replaced:** no name of a variable, no opening
brace that is not escaped, and no call of a function, in whatever case. The empty name
stands for no variable and for no function. -/
structure FullyResolved (text : Text) : Prop where
  names : ∀ var ∈ scope.toList, var.name ≠ [] → ¬ var.name <:+: text
  braces : ∀ before after, text = before ++ '\x7b' :: after →
    Span.escapedAfter false before = true
  calls : ∀ entry ∈ resolver.registry.entries, entry.1 ≠ [] →
    ¬ entry.1.map Char.toLower ++ ['('] <:+: text.map Char.toLower

variable (resolver scope) in
/-- **A text on a cycle:** some replacements lead away from it, and some lead back. -/
def OnCycle (text : Text) : Prop :=
  ∃ other, other ≠ text ∧ ReflTransGen (resolver.Replaces scope) text other ∧
    ReflTransGen (resolver.Replaces scope) other text

/-- In a fully resolved text nothing can be replaced. -/
theorem FullyResolved.not_replaces {text : Text} (h : resolver.FullyResolved scope text)
    (text' : Text) : ¬ resolver.Replaces scope text text' := by
  intro hstep
  cases hstep with
  | @substituted var hvar hname before after =>
    exact h.names var hvar hname ⟨before, after, rfl⟩
  | @evaluated before inside value hbefore hvalue after =>
    have hescaped := h.braces before (inside ++ '\x7d' :: after) (by simp)
    rw [hbefore] at hescaped
    cases hescaped
  | @called name function hentry hname lead inside output hlead houtput before after =>
    refine h.calls (name, function) hentry hname
      ⟨before.map Char.toLower, (inside ++ ')' :: after).map Char.toLower, ?_⟩
    have hparen : Char.toLower '(' = '(' := rfl
    simp [hlead, hparen]

/-- So it is on no cycle. -/
theorem not_onCycle_of_fullyResolved {text : Text} (h : resolver.FullyResolved scope text) :
    ¬ resolver.OnCycle scope text := by
  rintro ⟨other, hne, hto, -⟩
  rcases hto.cases_head with rfl | ⟨next, hstep, -⟩
  · exact hne rfl
  · exact h.not_replaces next hstep

/-- A text that is on no cycle is not left by replacements that lead back. -/
theorem eq_of_not_onCycle {text other : Text} (h : ¬ resolver.OnCycle scope text)
    (hto : ReflTransGen (resolver.Replaces scope) text other)
    (hback : ReflTransGen (resolver.Replaces scope) other text) : other = text := by
  by_contra hne
  exact h ⟨other, hne, hto, hback⟩

/-! ## Passes that lead back -/

/-- If substituting variables leads back to a text on no cycle, none of their names occurs
in it: each was substituted in this very text, and is gone afterwards. -/
theorem names_absent_of_not_onCycle {text : Text} (h : ¬ resolver.OnCycle scope text)
    {limit : Nat} {vars : List Variable} (hvars : vars ⊆ scope.toList) {reached : Text}
    (hall : Rewrite.substituteAll limit vars text = .ok reached)
    (hback : ReflTransGen (resolver.Replaces scope) reached text) :
    ∀ var ∈ vars, var.name ≠ [] → ¬ var.name <:+: text := by
  induction vars with
  | nil => simp
  | cons var rest ih =>
    obtain ⟨hvar, hrest⟩ := List.cons_subset.1 hvars
    rw [Rewrite.substituteAll] at hall
    split at hall
    · rename_i hempty
      intro other hother hname
      rcases List.mem_cons.1 hother with rfl | hmem
      · exact absurd hempty hname
      · exact ih hrest hall other hmem hname
    · rename_i hname
      split at hall
      · rename_i mid hmid
        obtain ⟨hto, habsent⟩ : ReflTransGen (resolver.Replaces scope) text mid ∧ _ :=
          replaces_of_substitute hvar hname hmid
        have hlater : ReflTransGen (resolver.Replaces scope) mid reached :=
          replaces_of_substituteAll hrest hall
        obtain rfl := eq_of_not_onCycle h hto (hlater.trans hback)
        intro other hother hother'
        rcases List.mem_cons.1 hother with rfl | hmem
        · exact habsent
        · exact ih hrest hall other hmem hother'
      · cases hall

/-- If making calls leads back to a text on no cycle, it has no call of these functions. -/
theorem calls_absent_of_not_onCycle {text : Text} (h : ¬ resolver.OnCycle scope text)
    {limit : Nat} {entries : List (Text × Function Id)}
    (hentries : entries ⊆ resolver.registry.entries) {reached : Text}
    (hall : (Rewrite.invokeAll limit entries text).run = ⟨reached, .finished⟩)
    (hback : ReflTransGen (resolver.Replaces scope) reached text) :
    ∀ entry ∈ entries, Span.findCall? text entry.1 '(' = none := by
  induction entries with
  | nil => simp
  | cons entry rest ih =>
    obtain ⟨name, function⟩ := entry
    obtain ⟨hentry, hrest⟩ := List.cons_subset.1 hentries
    rcases Rewrite.invokeAll_cons limit name function rest text with
      ⟨hfinished, heq⟩ | ⟨hstopped, heq⟩
    · rw [heq] at hall
      have hto : ReflTransGen (resolver.Replaces scope) text _ :=
        replaces_of_invoke hentry limit limit text
      have hlater : ReflTransGen (resolver.Replaces scope) _ _ :=
        replaces_of_invokeAll hrest limit (Rewrite.invoke limit name function limit text).run.text
      rw [hall] at hlater
      have hsame := eq_of_not_onCycle h hto (hlater.trans hback)
      have habsent := Rewrite.invoke_stop limit name function limit text hfinished
      rw [hsame] at hall habsent
      intro other hother
      rcases List.mem_cons.1 hother with rfl | hmem
      · exact habsent
      · exact ih hrest hall other hmem
    · rw [heq] at hall
      rw [hall] at hstopped
      exact absurd rfl hstopped

/-- What one way of rewriting does to a text on its way is a sequence of replacements. -/
theorem replaces_of_apply (progress : Progress) {step : Except ScriptError Rewrite}
    (h : ∀ rewrite, step = .ok rewrite →
      ReflTransGen (resolver.Replaces scope) progress.text rewrite.output) :
    ReflTransGen (resolver.Replaces scope) progress.text (progress.apply step).text := by
  rcases progress.apply_cases step with
    ⟨output, hstep, happly⟩ | ⟨output, hstep, happly⟩ | ⟨error, hstep, happly⟩
  · rw [happly]
    exact h _ hstep
  · rw [happly]
  · rw [happly]

/-- A way of rewriting that leaves the text and no error has had nothing to do, if its flag
is exact. -/
theorem step_of_apply {progress : Progress} {step : Except ScriptError Rewrite}
    (hexact : ∀ rewrite, step = .ok rewrite →
      (rewrite.changed = true ↔ rewrite.output ≠ progress.text))
    (htext : (progress.apply step).text = progress.text)
    (hpending : (progress.apply step).pending = none) :
    progress.pending = none ∧ step = .ok ⟨false, progress.text⟩ := by
  rcases progress.apply_cases step with
    ⟨output, hstep, happly⟩ | ⟨output, hstep, happly⟩ | ⟨error, hstep, happly⟩
  · rw [happly] at htext
    exact absurd htext ((hexact _ hstep).1 rfl)
  · rw [happly] at hpending
    have hsame : output = progress.text := Rewrite.output_eq_of_exact (hexact _ hstep) rfl
    exact ⟨hpending, by rw [hstep, hsame]⟩
  · rw [happly] at hpending
    cases hpending

/-- **A pass without an error that ends with the text it began with,** where the text is on
no cycle, has had nothing to do: no way of rewriting has left the text in between. -/
theorem ways_of_passOver {text : Text} (h : ¬ resolver.OnCycle scope text)
    (htext : (resolver.passOver scope text).text = text)
    (hpending : (resolver.passOver scope text).pending = none) :
    Rewrite.substitution resolver.config scope text = .ok ⟨false, text⟩ ∧
      Rewrite.math resolver.evaluate resolver.config 0 text = .ok ⟨false, text⟩ ∧
      (Rewrite.calls resolver.registry resolver.config 0 text).run = .ok ⟨false, text⟩ := by
  obtain ⟨s, e, hs, he, hp⟩ := resolver.passOf_eq scope ⟨text, none⟩
  rw [passOver, hp] at htext hpending
  have hsub : ReflTransGen (resolver.Replaces scope) text s.text := by
    rw [hs]
    exact replaces_of_apply ⟨text, none⟩ fun rewrite hstep =>
      replaces_of_substituteAll (List.Subset.refl _) (Rewrite.of_substitution_eq_ok hstep).1
  have hmath : ReflTransGen (resolver.Replaces scope) s.text e.text := by
    rw [he]
    exact replaces_of_apply s fun rewrite hstep => replaces_of_math hstep
  have hcalls : ReflTransGen (resolver.Replaces scope) e.text text := by
    rw [← htext]
    exact replaces_of_apply e fun rewrite hstep => replaces_of_calls hstep
  -- each of the two texts in between is reached from the text and leads back to it
  have hstext : s.text = text := eq_of_not_onCycle h hsub (hmath.trans hcalls)
  have hetext : e.text = text := eq_of_not_onCycle h (hsub.trans hmath) hcalls
  -- so no way of rewriting has changed the text, read from the last one to the first
  obtain ⟨hepending, hcallsStep⟩ := step_of_apply
    (fun rewrite hstep => Rewrite.changed_iff_of_calls hstep) (htext.trans hetext.symm) hpending
  rw [he] at hepending
  obtain ⟨hspending, hmathStep⟩ := step_of_apply
    (fun rewrite hstep => Rewrite.changed_iff_of_math hstep)
    (by rw [← he, hetext, hstext]) hepending
  rw [hs] at hspending
  obtain ⟨-, hsubStep⟩ := step_of_apply
    (fun rewrite hstep => (Rewrite.of_substitution_eq_ok hstep).2)
    (by rw [← hs, hstext]) hspending
  rw [hetext] at hcallsStep
  rw [hstext] at hmathStep
  exact ⟨hsubStep, hmathStep, hcallsStep⟩

/-! ## Strict resolution -/

/-- **A strictly resolved text is fully resolved exactly when it is on no cycle.** -/
theorem fullyResolved_iff_not_onCycle (resolver : Resolver Id) (scope : Scope)
    (input out : Text) (h : (resolver.resolveWith false scope input).run = .ok out) :
    resolver.FullyResolved scope out ↔ ¬ resolver.OnCycle scope out := by
  refine ⟨not_onCycle_of_fullyResolved, fun hcycle => ?_⟩
  obtain ⟨-, htext, hresult⟩ := passOver_of_resolveWith_eq_ok h
  obtain ⟨hsub, hmath, hcalls⟩ := ways_of_passOver hcycle htext
    (Progress.result_false_eq_ok_iff.1 hresult).1
  refine ⟨?_, ?_, ?_⟩
  · exact names_absent_of_not_onCycle hcycle (List.Subset.refl _)
      (Rewrite.of_substitution_eq_ok hsub).1 .refl
  · intro before after hsplit
    by_contra hopen
    have hbrace := (Span.hasUnescaped_iff (by decide)).2
      ⟨before, after, hsplit, by simpa using hopen⟩
    rw [Rewrite.hasUnescaped_of_math hmath] at hbrace
    cases hbrace
  · intro entry hentry hname
    have habsent := calls_absent_of_not_onCycle hcycle (List.Subset.refl _)
      (Rewrite.invokeAll_of_calls hcalls) .refl entry hentry
    exact (Span.findCall?_eq_none_iff.1 habsent).resolve_left hname

/-- A text that is on no cycle: `x` stands for `1`, every expression has the value `2`, and
`f` gives back its argument. -/
theorem fullyResolved_two :
    (Resolver.resolveWith (m := Id) ⟨⟨[(['f'], fun arguments => .ok arguments.raw)]⟩, .standard,
        fun _ => .ok ['2']⟩ false ⟨[⟨['x'], some ['1']⟩], []⟩
        ['f', '(', '\x7b', 'x', '\x7d', ')']).run = .ok ['2'] ∧
    (Resolver.FullyResolved ⟨⟨[(['f'], fun arguments => .ok arguments.raw)]⟩, .standard,
        fun _ => .ok ['2']⟩ ⟨[⟨['x'], some ['1']⟩], []⟩ ['2'] ↔
      ¬ Resolver.OnCycle ⟨⟨[(['f'], fun arguments => .ok arguments.raw)]⟩, .standard,
        fun _ => .ok ['2']⟩ ⟨[⟨['x'], some ['1']⟩], []⟩ ['2']) :=
  ⟨rfl, fullyResolved_iff_not_onCycle _ _ ['f', '(', '\x7b', 'x', '\x7d', ')'] _ rfl⟩

/-- Two variables that stand for each other come out strictly, and unresolved. -/
theorem not_fullyResolved_of_two_variables :
    ((Resolver.of (.empty : Registry Id) .standard).resolveWith false
        ⟨[], [⟨['a'], some ['b']⟩, ⟨['b'], some ['a']⟩]⟩ ['a']).run = .ok ['a'] ∧
    ¬ (Resolver.of (.empty : Registry Id) .standard).FullyResolved
        ⟨[], [⟨['a'], some ['b']⟩, ⟨['b'], some ['a']⟩]⟩ ['a'] :=
  ⟨rfl, fun h => h.names ⟨['a'], some ['b']⟩ (by decide) (by decide) (List.infix_refl _)⟩

end MapScript.Resolver
