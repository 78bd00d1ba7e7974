/-
Calls inside calls.

Of calls inside each other the first one is the outermost, and it is made with a text in which the
other calls still stand. A function that refuses such a text has the run look at the inside, level
by level, until it is asked for the innermost call. The argument of this file is that this comes
to the same as calling the function again and again on its own results.

What one call of the strategy does is `callsWithin_nestedCalls`: it makes the innermost call and
puts its result back between the parentheses of every level. So each pass takes the innermost name
away, and the induction over the passes takes the names from the end (`passes_nestedCalls`).
Where the levels do not reach down to the innermost call, none is made, and the limit on nesting
comes out through all of them (`callsWithin_beyond_levels`).
-/
import MapScript.Proofs.Nesting

set_option autoImplicit false

namespace MapScript

/-! ## Texts that nothing is found in -/

/-- The characters that open, close or escape something. -/
def Text.signs : Text := ['(', ')', '\x7b', '\x7d', '\\']

/-- A text without parentheses, braces and backslashes. -/
def Text.Inert (text : Text) : Prop := ∀ c ∈ text, c ∉ Text.signs

instance (text : Text) : Decidable text.Inert :=
  List.decidableBAll (fun c => c ∉ Text.signs) text

/-- A word that is a name but for the case of its letters. -/
def Text.Spells (word name : Text) : Prop := word.map Char.toLower = name.map Char.toLower

instance (word name : Text) : Decidable (word.Spells name) :=
  inferInstanceAs (Decidable (_ = _))

namespace Text.Inert

variable {text : Text}

/-- It is a plain text. -/
theorem plain (h : text.Inert) : text.Plain := by
  intro c hc
  have hsigns := h c hc
  simp only [Text.signs, List.mem_cons, not_or] at hsigns
  exact ⟨hsigns.2.2.1, hsigns.2.2.2.1, hsigns.2.2.2.2.1⟩

/-- It opens no call. -/
theorem not_mem (h : text.Inert) : '(' ∉ text := fun hmem => h '(' hmem (by simp [signs])

/-- Its parentheses are balanced, as it has none. -/
theorem balanced (h : text.Inert) : Span.Balanced '(' ')' text := by
  refine .of_free fun c hc => ?_
  have hsigns := h c hc
  simp only [Text.signs, List.mem_cons, not_or] at hsigns
  exact ⟨hsigns.1, hsigns.2.1, hsigns.2.2.2.2.1⟩

/-- **So is each spelling of it,** because no sign is a letter. -/
theorem of_spells {word : Text} (h : text.Inert) (hspells : word.Spells text) :
    word.Inert := by
  have hletters : ∀ sign ∈ Text.signs, sign.isAlpha = false := by simp [Text.signs]
  intro c hc hsign
  -- a sign of the word is its own lower case, so the text has it as well
  have hlower : c.toLower ∈ text.map Char.toLower := hspells ▸ List.mem_map_of_mem hc
  obtain ⟨d, hd, hdc⟩ := List.mem_map.1 hlower
  rw [(Span.toLower_eq_iff (hletters c hsign)).2 rfl,
    Span.toLower_eq_iff (hletters c hsign)] at hdc
  rw [hdc] at hd
  exact h c hd hsign

end Text.Inert

/-! ## Calls inside each other -/

/-- **Calls inside each other,** one for each word from the outermost on, and the last around an
argument. -/
def nestedCalls : List Text → Text → Text
  | [], argument => argument
  | word :: words, argument => word ++ '(' :: (nestedCalls words argument ++ [')'])

section Texts

variable {argument : Text} {words : List Text}

/-- Calls bring no braces and backslashes. -/
theorem plain_nestedCalls (hwords : ∀ word ∈ words, word.Inert) (hargument : argument.Inert) :
    (nestedCalls words argument).Plain := by
  have hopen : Text.Plain ['('] := by decide
  have hclose : Text.Plain [')'] := by decide
  induction words with
  | nil => exact hargument.plain
  | cons word words ih =>
    obtain ⟨hword, hrest⟩ := List.forall_mem_cons.1 hwords
    exact hword.plain.append (hopen.append ((ih hrest).append hclose))

/-- **Calls close the parentheses that they open.** -/
theorem balanced_nestedCalls (hwords : ∀ word ∈ words, word.Inert) (hargument : argument.Inert) :
    Span.Balanced '(' ')' (nestedCalls words argument) := by
  induction words with
  | nil => exact hargument.balanced
  | cons word words ih =>
    obtain ⟨hword, hrest⟩ := List.forall_mem_cons.1 hwords
    exact hword.balanced.append ((ih hrest).enclose .parentheses)

/-- As many parentheses are opened as there are calls. -/
theorem count_nestedCalls (hwords : ∀ word ∈ words, word.Inert) (hargument : argument.Inert) :
    (nestedCalls words argument).count '(' = words.length := by
  induction words with
  | nil => exact List.count_eq_zero.2 hargument.not_mem
  | cons word words ih =>
    obtain ⟨hword, hrest⟩ := List.forall_mem_cons.1 hwords
    have hnone : word.count '(' = 0 := List.count_eq_zero.2 hword.not_mem
    simp [nestedCalls, List.count_append, hnone, ih hrest]

/-- So a text with one call less is another text. -/
theorem nestedCalls_ne (words : List Text) {last result : Text}
    (hwords : ∀ word ∈ words ++ [last], word.Inert) (hargument : argument.Inert)
    (hresult : result.Inert) :
    nestedCalls words result ≠ nestedCalls (words ++ [last]) argument := by
  intro heq
  have hfirst : ∀ word ∈ words, word.Inert :=
    fun word hmem => hwords word (List.mem_append_left _ hmem)
  have hcounts := congrArg (List.count '(') heq
  rw [count_nestedCalls hfirst hresult, count_nestedCalls hwords hargument, List.length_append,
    List.length_singleton] at hcounts
  omega

end Texts

/-! ## Functions that work from the inside out -/

/-- The table of one function that draws nothing. -/
def Registry.single {m : Type → Type} [Monad m] (name : Text)
    (call : Arguments → Except ScriptError Text) : Registry m :=
  ⟨[(name, fun arguments => pure (call arguments))]⟩

/-- **A function that works from the inside out.** It refuses arguments in which it is called, and
takes each of `count` values to the next one. Nothing is found in its name and in the values. -/
structure InsideOut (call : Arguments → Except ScriptError Text) (name : Text)
    (values : Nat → Text) (count : Nat) : Prop where
  named : name ≠ []
  inert_name : name.Inert
  refuses : ∀ raw, name.map Char.toLower ++ ['('] <:+: raw.map Char.toLower →
    ∃ error, call ⟨name, raw⟩ = .error error
  result : ∀ k < count, call ⟨name, values k⟩ = .ok (values (k + 1))
  inert : ∀ k ≤ count, (values k).Inert

namespace InsideOut

open Rewrite

variable {call : Arguments → Except ScriptError Text} {name : Text} {values : Nat → Text}
  {count : Nat} {words : List Text}

/-- Nothing is found in the spellings of the name. -/
theorem inert_words (h : InsideOut call name values count)
    (hwords : ∀ word ∈ words, word.Spells name) : ∀ word ∈ words, word.Inert :=
  fun word hmem => h.inert_name.of_spells (hwords word hmem)

/-- **The first call is the outermost one.** -/
theorem focusCall_nestedCalls (h : InsideOut call name values count) {word argument : Text}
    (hwords : ∀ spelling ∈ word :: words, spelling.Spells name) (hargument : argument.Inert) :
    Span.focusCall (nestedCalls (word :: words) argument) name '(' ')' =
      .ok ⟨[], word, nestedCalls words argument, [], '(', ')'⟩ := by
  obtain ⟨hword, hrest⟩ := List.forall_mem_cons.1 hwords
  have hinside := balanced_nestedCalls (h.inert_words hrest) hargument
  exact Span.focusCall_of_balanced h.named hword hinside []

/-- Calls are refused as arguments. -/
theorem refuses_nestedCalls (h : InsideOut call name values count) {word : Text}
    (hword : word.Spells name) (words : List Text) (argument : Text) :
    ∃ error, call ⟨name, nestedCalls (word :: words) argument⟩ = .error error := by
  have hlower : (nestedCalls (word :: words) argument).map Char.toLower =
      name.map Char.toLower ++ ['('] ++ (nestedCalls words argument ++ [')']).map Char.toLower := by
    rw [Text.Spells] at hword
    rw [nestedCalls, List.map_append, List.map_cons, hword, List.append_assoc]
    rfl
  refine h.refuses _ ?_
  rw [hlower]
  exact (List.prefix_append _ _).isInfix

/-! ### The call strategy -/

section Calls

variable {m : Type → Type} [Monad m] [LawfulMonad m] {config : Config}

/-- A call around another one is refused, and what comes out is recovered from the inner one. -/
theorem callsWithin_cons (h : InsideOut call name values count)
    (hexpansions : 1 ≤ config.maxExpansions) {word next argument : Text}
    (hwords : ∀ spelling ∈ word :: next :: words, spelling.Spells name)
    (hargument : argument.Inert) (levels : Nat) :
    ∃ source, callsWithin (m := m) (.single name call) config (levels + 1)
        (nestedCalls (word :: next :: words) argument) =
      (do
        let inner ← callsWithin (.single name call) config levels
          (nestedCalls (next :: words) argument)
        pure ((Span.mk [] word (nestedCalls (next :: words) argument) [] '(' ')').recover
          (.functionExecution name source) inner)) := by
  have hnext : next.Spells name := hwords next (by simp)
  have hfocus := h.focusCall_nestedCalls hwords hargument
  obtain ⟨source, hrefused⟩ := h.refuses_nestedCalls hnext words argument
  obtain ⟨budget, hbudget⟩ := Nat.exists_eq_add_of_le' hexpansions
  refine ⟨source, ?_⟩
  rw [callsWithin, Registry.single, invokeAll_singleton, hbudget,
    invoke_of_refused hfocus (congrArg pure hrefused), pure_bind, Run.verdict_failedIn]

/-- A call around a value is made, and its result is all that is left. -/
theorem callsWithin_last (h : InsideOut call name values count)
    (hexpansions : 1 ≤ config.maxExpansions) {word : Text} (hword : word.Spells name) {k : Nat}
    (hk : k < count) (levels : Nat) :
    callsWithin (m := m) (.single name call) config (levels + 1)
        (nestedCalls [word] (values k)) =
      pure (.ok ⟨true, values (k + 1)⟩) := by
  have hwords : ∀ spelling ∈ [word], spelling.Spells name := by simpa using hword
  have hresult := h.inert (k + 1) hk
  have hfocus := h.focusCall_nestedCalls hwords (h.inert k hk.le)
  have hsplice : (Span.mk [] word (values k) [] '(' ')').splice (values (k + 1)) =
      values (k + 1) := List.append_nil _
  have hnone := Span.findCall?_of_not_mem hresult.not_mem name
  have hne : values (k + 1) ≠ nestedCalls [word] (values k) :=
    nestedCalls_ne [] (h.inert_words hwords) (h.inert k hk.le) hresult
  obtain ⟨budget, hbudget⟩ := Nat.exists_eq_add_of_le' hexpansions
  rw [callsWithin, Registry.single, invokeAll_singleton, hbudget,
    invoke_of_result hfocus (congrArg pure (h.result k hk)), nestedCalls, hsplice,
    invoke_of_none hnone, pure_bind, Run.verdict_of_ne hne]

/-- **One call of the strategy makes the innermost call,** as long as the levels reach down to
it, and puts the result back between the parentheses of the others. -/
theorem callsWithin_nestedCalls (h : InsideOut call name values count)
    (hexpansions : 1 ≤ config.maxExpansions) {last : Text}
    (hwords : ∀ word ∈ words ++ [last], word.Spells name) {k : Nat} (hk : k < count)
    {levels : Nat} (hlevels : words.length < levels) :
    callsWithin (m := m) (.single name call) config levels
        (nestedCalls (words ++ [last]) (values k)) =
      pure (.ok ⟨true, nestedCalls words (values (k + 1))⟩) := by
  induction words generalizing levels with
  | nil =>
    obtain ⟨less, rfl⟩ := Nat.exists_eq_succ_of_ne_zero (Nat.ne_zero_of_lt hlevels)
    exact h.callsWithin_last hexpansions (hwords last (by simp)) hk less
  | cons word words ih =>
    obtain ⟨less, rfl⟩ := Nat.exists_eq_succ_of_ne_zero (Nat.ne_zero_of_lt hlevels)
    have hless : words.length < less := by simpa using hlevels
    obtain ⟨-, hrest⟩ := List.forall_mem_cons.1 hwords
    have hinner := ih hrest hless
    -- the inside is a call too, whether it is the last one or not
    have hsome : words ++ [last] ≠ [] := by simp
    obtain ⟨next, others, hnext⟩ := List.exists_cons_of_ne_nil hsome
    rw [List.cons_append, hnext] at hwords ⊢
    rw [hnext] at hinner
    obtain ⟨source, hcalls⟩ := h.callsWithin_cons (m := m) hexpansions hwords (h.inert k hk.le) less
    rw [hcalls, hinner, pure_bind]
    simp [Span.recover, Span.rewrap, nestedCalls]

/-- **Where the levels end above the innermost call** every call that is reached is refused, and
the limit on nesting is the result. -/
theorem callsWithin_beyond_levels (h : InsideOut call name values count)
    (hexpansions : 1 ≤ config.maxExpansions) {argument : Text} (hargument : argument.Inert)
    (hwords : ∀ word ∈ words, word.Spells name) {levels : Nat}
    (hlevels : levels < words.length) :
    callsWithin (m := m) (.single name call) config levels (nestedCalls words argument) =
      pure (.error (.recursionLimit config.maxDepth)) := by
  induction levels generalizing words with
  | zero => rfl
  | succ levels ih =>
    -- there are more words than levels, so the first call is around another one
    match words with
    | word :: next :: words =>
      obtain ⟨-, hrest⟩ := List.forall_mem_cons.1 hwords
      obtain ⟨source, hcalls⟩ := h.callsWithin_cons (m := m) hexpansions hwords hargument levels
      rw [hcalls, ih hrest (by simpa using hlevels), pure_bind]
      rfl

end Calls

/-! ### Resolution -/

section Resolution

variable {m : Type → Type} [Monad m] [LawfulMonad m] {config : Config} {evaluate : Evaluator}

/-- **One pass makes the innermost call.** -/
theorem pass_nestedCalls (h : InsideOut call name values count)
    (hexpansions : 1 ≤ config.maxExpansions) {last : Text}
    (hwords : ∀ word ∈ words ++ [last], word.Spells name)
    (hdepth : words.length < config.maxDepth + 1) {k : Nat} (hk : k < count) :
    Resolver.pass (m := m) ⟨.single name call, config, evaluate⟩ ⟨[], []⟩
        ⟨nestedCalls (words ++ [last]) (values k), none⟩ =
      pure ⟨nestedCalls words (values (k + 1)), none⟩ := by
  have hplain := plain_nestedCalls (h.inert_words hwords) (h.inert k hk.le)
  have hcalls : calls (m := m) (.single name call) config 0
      (nestedCalls (words ++ [last]) (values k)) =
        pure (.ok ⟨true, nestedCalls words (values (k + 1))⟩) :=
    h.callsWithin_nestedCalls hexpansions hwords hk hdepth
  exact Resolver.pass_of_rewrites (math_of_plain hplain) hcalls nofun

/-- A pass leaves a value as it is. -/
theorem pass_value (h : InsideOut call name values count) {k : Nat} (hk : k ≤ count) :
    Resolver.pass (m := m) ⟨.single name call, config, evaluate⟩ ⟨[], []⟩ ⟨values k, none⟩ =
      pure ⟨values k, none⟩ := by
  have hvalue := h.inert k hk
  have hnone := Span.findCall?_of_not_mem hvalue.not_mem name
  have hcalls : calls (m := m) (.single name call) config 0 (values k) =
      pure (.ok ⟨false, values k⟩) := by
    rw [calls, Config.levelsAt_zero, callsWithin, Registry.single, invokeAll_singleton,
      invoke_of_none hnone, pure_bind, Run.verdict_finished]
  exact Resolver.pass_of_rewrites (math_of_plain hvalue.plain) hcalls fun _ => rfl

/-- **Enough passes make all calls.** Each pass makes the innermost one, so the induction takes the
words from the end; the last pass leaves the text as it is. -/
theorem passes_nestedCalls (h : InsideOut call name values count)
    (hexpansions : 1 ≤ config.maxExpansions) (hwords : ∀ word ∈ words, word.Spells name)
    (hdepth : words.length ≤ config.maxDepth + 1) (lenient : Bool) {k : Nat}
    (hcount : k + words.length ≤ count) {remaining : Nat} (hremaining : words.length < remaining) :
    Resolver.passes (m := m) ⟨.single name call, config, evaluate⟩ ⟨[], []⟩ lenient remaining
        ⟨nestedCalls words (values k), none⟩ =
      pure (.ok (values (k + words.length))) := by
  obtain ⟨less, rfl⟩ := Nat.exists_eq_succ_of_ne_zero (Nat.ne_zero_of_lt hremaining)
  induction words using List.reverseRecOn generalizing k less with
  | nil =>
    rw [nestedCalls, Resolver.passes, h.pass_value (k := k) hcount, pure_bind, if_pos rfl]
    rfl
  | append_singleton words last ih =>
    rw [List.length_append, List.length_singleton] at hdepth hcount hremaining ⊢
    have hk : k < count := by omega
    have hfirst : ∀ word ∈ words, word.Spells name :=
      fun word hmem => hwords word (List.mem_append_left _ hmem)
    have hne := nestedCalls_ne words (h.inert_words hwords) (h.inert k hk.le) (h.inert (k + 1) hk)
    -- one pass is for this call, and the others are enough for the calls around it
    obtain ⟨less, rfl⟩ : ∃ fewer, less = fewer + 1 := ⟨less - 1, by omega⟩
    have hpasses := ih hfirst (by omega) (by omega : k + 1 + words.length ≤ count) less (by omega)
    have hsteps : k + (words.length + 1) = k + 1 + words.length := by omega
    rw [Resolver.passes, h.pass_nestedCalls hexpansions hwords hdepth hk, pure_bind, if_neg hne,
      hpasses, hsteps]

/-- **Calls inside each other compute the iterated function.** In a text of calls inside each
other, in any case of the letters, the only function of the table refuses its arguments as long as
it is called in them, and takes each value to the next. Then the text resolves to the value after
as many steps as there are calls, with one pass more than that and with levels that reach down to
the innermost call. With fewer levels no call is made, and the limit on nesting is the result. -/
theorem nestedCalls_outcome (config : Config) (evaluate : Evaluator)
    (h : InsideOut call name values words.length) (hwords : ∀ word ∈ words, word.Spells name)
    (hexpansions : 1 ≤ config.maxExpansions) :
    (words.length ≤ config.maxDepth + 1 → words.length < config.maxPasses →
      Resolver.resolve (m := m) ⟨.single name call, config, evaluate⟩ ⟨[], []⟩
          (nestedCalls words (values 0)) =
        pure (.ok (values words.length))) ∧
    (config.maxDepth + 1 < words.length →
      calls (m := m) (.single name call) config 0 (nestedCalls words (values 0)) =
        pure (.error (.recursionLimit config.maxDepth))) := by
  constructor
  · intro hdepth hpasses
    have hresolve : Resolver.resolve (m := m) ⟨.single name call, config, evaluate⟩ ⟨[], []⟩
        (nestedCalls words (values 0)) = pure (.ok (values (0 + words.length))) :=
      h.passes_nestedCalls hexpansions hwords hdepth config.lenient (Nat.zero_add _).le hpasses
    rwa [Nat.zero_add] at hresolve
  · intro hdepth
    exact h.callsWithin_beyond_levels hexpansions (h.inert 0 (Nat.zero_le _)) hwords hdepth

end Resolution

end InsideOut

/-! ## Two calls -/

/-- A function that writes a letter before its arguments, unless a parenthesis is in them. -/
def writeBefore : Arguments → Except ScriptError Text := fun arguments =>
  if '(' ∈ arguments.raw then arguments.refuse "no call".toList else .ok ('s' :: arguments.raw)

/-- It works from the inside out, whatever it is called. -/
theorem insideOut_writeBefore {name : Text} (hname : name ≠ []) (hinert : name.Inert)
    (count : Nat) : InsideOut writeBefore name (List.replicate · 's') count where
  named := hname
  inert_name := hinert
  refuses := by
    intro raw hcall
    have hmem : '(' ∈ raw := by
      by_contra habsent
      have hnone := Span.findCall?_of_not_mem habsent name
      exact (Span.findCall?_eq_none_iff.1 hnone).resolve_left hname hcall
    exact ⟨_, if_pos hmem⟩
  result := by
    intro k _
    have habsent : '(' ∉ List.replicate k 's' := by simp
    exact if_neg habsent
  inert := by
    intro k _ c hc
    rw [List.eq_of_mem_replicate hc]
    decide

/-- Two calls under two spellings of a name, with as few passes and levels as they need, and with
one level less. -/
theorem InsideOut.nestedCalls_outcome_two :
    InsideOut writeBefore ['f'] (List.replicate · 's') 2 ∧
      Resolver.resolve (m := Id) (.of (.single ['f'] writeBefore) ⟨3, 1, 1, false⟩) ⟨[], []⟩
        "f(F())".toList = pure (.ok "ss".toList) ∧
      Rewrite.calls (m := Id) (.single ['f'] writeBefore) ⟨3, 1, 0, false⟩ 0 "f(F())".toList =
        pure (.error (.recursionLimit 0)) := by
  have hinsideOut := insideOut_writeBefore (by decide : ['f'] ≠ []) (by decide) 2
  have hwords : ∀ word ∈ [['f'], ['F']], Text.Spells word ['f'] := by decide
  obtain ⟨hresolve, -⟩ := nestedCalls_outcome (m := Id) ⟨3, 1, 1, false⟩ Expr.evaluate hinsideOut
    hwords (by decide)
  obtain ⟨-, hlimit⟩ := nestedCalls_outcome (m := Id) ⟨3, 1, 0, false⟩ Expr.evaluate hinsideOut
    hwords (by decide)
  exact ⟨hinsideOut, hresolve (by decide) (by decide), hlimit (by decide)⟩

end MapScript
