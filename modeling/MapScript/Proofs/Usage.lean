/-
What a run reports as unused.

Whether a parameter has been read is a mark on it, and several readers set the mark. Before a run
all marks are taken away, and each reader is then followed by the list of what is still unread. The
readers that look a parameter up by its name take the first one of the name from the list
(`ask_unused`), and the reader of a repetition takes all but those that count the repetitions
(`readParams_unused`), so that a second repetition finds nothing more to take (`iterations_unused`).
A run that succeeds has gone through all its readers. The list that it reports is therefore known
from the block alone, whatever the marks were before it (`runBlock_unused`).

Nothing is said here of what the functions do. They may draw random numbers; the lists are the same.
-/
import MapScript.Proofs.Parameters
import MapScript.Proofs.Rewriting

set_option autoImplicit false

namespace MapScript

/-! ## Outcomes -/

namespace Outcome

variable {σ α : Type} {P : α → σ → Prop}

/-- What is said of the value and the state of an outcome, if it is a success. -/
def OnSuccess (P : α → σ → Prop) (outcome : Outcome σ α) : Prop :=
  ∀ value, outcome.result = .ok value → P value outcome.state

/-- Of a failure nothing is said. -/
theorem OnSuccess.failure {error : ScriptError} {state : σ} :
    OnSuccess P (failure error state) := by
  intro value hvalue
  cases hvalue

/-- Of a success it is said. -/
theorem OnSuccess.success {value : α} {state : σ} (h : P value state) :
    OnSuccess P (success value state) := by
  intro found hfound
  obtain rfl := Except.ok.inj hfound
  exact h

end Outcome

/-! ## Marks -/

/-- Directives as they are reported. -/
def listed (directives : List Directive) : List UnusedDirective :=
  directives.map fun directive => ⟨directive.name, directive.index⟩

/-- A directive that has been read is not reported. -/
theorem unusedDirectives_cons_of_used {directive : Directive} (h : directive.used = true)
    (rest : List Directive) : unusedDirectives (directive :: rest) = unusedDirectives rest := by
  rw [unusedDirectives, List.filter_cons_of_neg (by simp [h]), unusedDirectives]

/-- A directive that has not been read is. -/
theorem unusedDirectives_cons_of_unused {directive : Directive} (h : directive.used = false)
    (rest : List Directive) :
    unusedDirectives (directive :: rest) =
      ⟨directive.name, directive.index⟩ :: unusedDirectives rest := by
  rw [unusedDirectives, List.filter_cons_of_pos (by simp [h]), List.map_cons, unusedDirectives]

namespace Block

/-- The first directive of a name has not been read if none of the name has been. -/
def Unread (name : Text) (params : List Directive) : Prop :=
  ∀ param ∈ params, param.name = name → param.used = false

/-- **Reading the first parameter of a name** takes it from those that are reported. -/
theorem unusedDirectives_useFirst {name : Text} {params : List Directive}
    (h : Unread name params) :
    unusedDirectives (useFirst name params) =
      (unusedDirectives params).eraseP (·.name = name) := by
  induction params with
  | nil => rfl
  | cons param rest ih =>
    obtain ⟨hparam, hrest⟩ := List.forall_mem_cons.1 h
    rw [useFirst]
    by_cases hname : param.name = name
    · rw [if_pos hname, unusedDirectives_cons_of_used rfl,
        unusedDirectives_cons_of_unused (hparam hname), List.eraseP_cons_of_pos (by simpa)]
    · rw [if_neg hname]
      cases hused : param.used with
      | true =>
        rw [unusedDirectives_cons_of_used hused, unusedDirectives_cons_of_used hused, ih hrest]
      | false =>
        rw [unusedDirectives_cons_of_unused hused, unusedDirectives_cons_of_unused hused,
          ih hrest, List.eraseP_cons_of_neg (by simpa)]

/-- It reads no parameter of another name. -/
theorem Unread.useFirst {name other : Text} {params : List Directive} (hne : other ≠ name)
    (h : Unread other params) : Unread other (useFirst name params) := by
  induction params with
  | nil => exact h
  | cons param rest ih =>
    obtain ⟨hparam, hrest⟩ := List.forall_mem_cons.1 h
    rw [Block.useFirst]
    split
    · rename_i hname
      refine List.forall_mem_cons.2 ⟨fun hother => ?_, hrest⟩
      exact absurd (hother.symm.trans hname) hne
    · exact List.forall_mem_cons.2 ⟨hparam, ih hrest⟩

/-- Where no parameter has a name, reading the first one of it changes nothing. -/
theorem eraseP_unused_of_none {block : Block} {name : Text} (h : block.param? name = none) :
    block.unused.eraseP (·.name = name) = block.unused := by
  refine List.eraseP_of_forall_not ?_
  intro entry hentry
  obtain ⟨param, hparam, rfl⟩ := List.mem_map.1 hentry
  exact List.find?_eq_none.1 h param (List.mem_filter.1 hparam).1

variable (block : Block)

/-- After the marks are reset nothing has been read. -/
theorem unread_of_resetUsage (name : Text) : Unread name block.resetUsage.params := by
  intro param hparam _
  obtain ⟨marked, -, rfl⟩ := List.mem_map.1 hparam
  rfl

/-- So every parameter would be reported. -/
theorem unused_resetUsage : block.resetUsage.unused = listed block.params := by
  have hall : ∀ param ∈ block.resetUsage.params, (!param.used) = true := by
    intro param hparam
    rw [unread_of_resetUsage block param.name param hparam rfl]
    rfl
  rw [unused, unusedDirectives, List.filter_eq_self.2 hall, resetUsage, List.map_map]
  rfl

end Block

namespace Session

open Outcome (OnSuccess)

variable {m : Type → Type} [Monad m] [LawfulMonad m] {resolver : Resolver m}
  {visible : List Variable} {block : Block}

/-! ## Parameters that are looked up -/

/-- **Asking for a parameter reads the first one of its name,** whether the answer is of use or not.
The answer comes from its value. -/
theorem ask_unused {α : Type} {name : Text} {without : α}
    {read : Directive → Text → Except ScriptError α} (Known : Option Text → Prop)
    (hunread : Block.Unread name block.params)
    (hknown : ∀ param ∈ block.param? name,
      SatisfiesM (fun result => ∀ value, result = .ok value → Known value)
        (param.current resolver visible)) :
    SatisfiesM
      (fun outcome : Outcome Block α =>
        outcome.state.unused = block.unused.eraseP (·.name = name) ∧
          ∀ answer, outcome.result = .ok answer →
            (block.param? name = none ∧ answer = without) ∨
              ∃ param ∈ block.param? name, ∃ value, Known value ∧
                read param (value.getD []) = .ok answer)
      (ask name without read resolver visible block) := by
  rw [ask]
  cases hparam : block.param? name with
  | none =>
    refine .pure ⟨(Block.eraseP_unused_of_none hparam).symm, ?_⟩
    intro answer hanswer
    exact .inl ⟨rfl, (Except.ok.inj hanswer).symm⟩
  | some param =>
    have hused : (block.useParam name).unused = block.unused.eraseP (·.name = name) :=
      Block.unusedDirectives_useFirst hunread
    refine (hknown param hparam).bind fun result hresult => ?_
    cases result with
    | error error =>
      refine .pure ⟨hused, ?_⟩
      intro answer hanswer
      cases hanswer
    | ok value =>
      refine .pure ⟨hused, ?_⟩
      intro answer hanswer
      exact .inr ⟨param, rfl, value, hresult value rfl, hanswer⟩

/-! ## Repetitions -/

/-- **A repetition that succeeds has read every parameter** but those that count the repetitions. -/
theorem readParams_unused (number : Nat) (params : List Directive) :
    SatisfiesM
      (OnSuccess fun _ state =>
        unusedDirectives state = (unusedDirectives params).filter (·.name = repeatName))
      (readParams resolver visible number params) := by
  induction params with
  | nil => exact .pure (.success rfl)
  | cons param rest ih =>
    rw [readParams]
    by_cases hname : param.name = repeatName
    · rw [if_pos hname]
      refine ih.bind fun later hlater => .pure fun fields hfields => ?_
      have hrest := hlater fields hfields
      change unusedDirectives (param :: later.state) = _
      cases hused : param.used with
      | true =>
        rw [unusedDirectives_cons_of_used hused, unusedDirectives_cons_of_used hused, hrest]
      | false =>
        rw [unusedDirectives_cons_of_unused hused, unusedDirectives_cons_of_unused hused, hrest,
          List.filter_cons_of_pos (by simpa)]
    · rw [if_neg hname]
      have hskip : (unusedDirectives (param :: rest)).filter (·.name = repeatName) =
          (unusedDirectives rest).filter (·.name = repeatName) := by
        cases hused : param.used with
        | true => rw [unusedDirectives_cons_of_used hused]
        | false =>
          rw [unusedDirectives_cons_of_unused hused, List.filter_cons_of_neg (by simpa)]
      have hread : SatisfiesM
          (fun read : Outcome Directive (Option Text) => read.state.used = true)
          ((param.setLocal ⟨repeatName, some (Text.ofNat number)⟩).value resolver visible) :=
        SatisfiesM.trivial.bind fun result _ => .pure rfl
      refine hread.bind fun read hused => ?_
      obtain ⟨error | value, state⟩ := read
      · exact .pure .failure
      · refine ih.bind fun later hlater => .pure ?_
        obtain ⟨error | fields, params⟩ := later
        · exact .failure
        · refine .success ?_
          rw [unusedDirectives_cons_of_used hused, hskip]
          exact hlater fields rfl

variable {session : Session m}

/-- So has one with the refresh after it. -/
theorem iteration_unused (block : Block) (number : Nat) :
    SatisfiesM
      (OnSuccess fun _ state => state.2.unused = block.unused.filter (·.name = repeatName))
      (session.iteration block number) := by
  rw [iteration]
  refine SatisfiesM.trivial.bind fun snapshot _ => ?_
  cases snapshot with
  | error error => exact .pure .failure
  | ok visible =>
    refine (readParams_unused number block.params).bind fun read hread => ?_
    obtain ⟨error | fields, params⟩ := read
    · exact .pure .failure
    · refine SatisfiesM.trivial.bind fun refreshed _ => .pure fun record _ => ?_
      exact hread fields rfl

/-- **Repetitions have read the parameters if there is one at least.** A second one finds nothing to
read that is new. -/
theorem iterations_unused (block : Block) (remaining number : Nat) :
    SatisfiesM
      (OnSuccess fun records state =>
        records.length = remaining ∧
          state.2.unused =
            block.unused.filter fun entry => entry.name = repeatName ∨ remaining = 0)
      (session.iterations block remaining number) := by
  induction remaining generalizing session block number with
  | zero => exact .pure (.success ⟨rfl, by simp⟩)
  | succ remaining ih =>
    rw [iterations]
    refine (iteration_unused block number).bind fun outcome houtcome => ?_
    obtain ⟨error | record, session', block'⟩ := outcome
    · exact .pure .failure
    · have hfirst : block'.unused = block.unused.filter (·.name = repeatName) :=
        houtcome record rfl
      refine (ih block' (number + 1)).bind fun later hlater => .pure ?_
      obtain ⟨error | records, state⟩ := later
      · exact .failure
      · obtain ⟨hlength, hunused⟩ := hlater records rfl
        refine .success ⟨congrArg Nat.succ hlength, ?_⟩
        rw [hunused, hfirst, List.filter_filter]
        refine List.filter_congr fun entry _ => ?_
        by_cases hname : entry.name = repeatName <;> simp [hname]

/-! ## Blocks that are expanded -/

/-- **What is known of the number of repetitions:** of one without a parameter that counts them, and
with such parameters of every whole number that the first of them may resolve to. -/
def CountIs (session : Session m) (block : Block) (Known : Nat → Prop) : Prop :=
  match block.param? repeatName with
  | none => Known 1
  | some param =>
    SatisfiesM
      (fun snapshot => ∀ visible, snapshot = .ok visible →
        SatisfiesM
          (fun read => ∀ value, read = .ok value → ∀ count,
            Text.natBelow? (Nat.pow 2 64) (Text.trim (value.getD [])) = some count → Known count)
          (param.current session.resolver visible))
      (session.globals.snapshot session.resolver)

variable {Known : Nat → Prop}

omit [LawfulMonad m] in
/-- Marks say nothing of the number. -/
theorem CountIs.resetUsage (h : session.CountIs block Known) :
    session.CountIs block.resetUsage Known := by
  unfold CountIs at h ⊢
  rw [Block.param?_resetUsage]
  cases hparam : block.param? repeatName with
  | none =>
    rw [hparam] at h
    exact h
  | some param =>
    rw [hparam] at h
    exact h

/-- **Counting the repetitions** reads the first parameter for it. -/
theorem countOf_unused (hunread : Block.Unread repeatName block.params)
    (hcount : session.CountIs block Known) :
    SatisfiesM
      (fun snapshot => ∀ visible, snapshot = .ok visible →
        SatisfiesM
          (fun outcome : Outcome Block Nat =>
            outcome.state.unused = block.unused.eraseP (·.name = repeatName) ∧
              ∀ count, outcome.result = .ok count → Known count)
          (countOf session.resolver visible block))
      (session.globals.snapshot session.resolver) := by
  unfold CountIs at hcount
  cases hparam : block.param? repeatName with
  | none =>
    rw [hparam] at hcount
    refine SatisfiesM.trivial.imp fun _ visible _ => ?_
    rw [countOf, hparam]
    refine .pure ⟨(Block.eraseP_unused_of_none hparam).symm, fun count hfound => ?_⟩
    obtain rfl := Except.ok.inj hfound
    exact hcount
  | some param =>
    rw [hparam] at hcount
    refine hcount.imp fun hsnapshot visible hvisible => ?_
    rw [countOf_eq_ask]
    have hknown : ∀ found ∈ block.param? repeatName, SatisfiesM
        (fun read => ∀ value, read = .ok value → ∀ count,
          Text.natBelow? (Nat.pow 2 64) (Text.trim (value.getD [])) = some count → Known count)
        (found.current session.resolver visible) := by
      intro found hfound
      obtain rfl := Option.some.inj (hparam.symm.trans hfound)
      exact hsnapshot visible hvisible
    refine (ask_unused _ hunread hknown).imp fun hask => ⟨hask.1, fun count hanswer => ?_⟩
    rcases hask.2 count hanswer with ⟨hnone, -⟩ | ⟨found, -, value, hvalue, hread⟩
    · rw [hparam] at hnone
      cases hnone
    · rw [readCount] at hread
      split at hread
      · rename_i number hnumber
        obtain rfl := Except.ok.inj hread
        exact hvalue number hnumber
      · cases hread

/-- **A block that is expanded** has read the first parameter that counts the repetitions, and every
other one unless there are none. -/
theorem expand_unused (hunread : Block.Unread repeatName block.params)
    (hcount : session.CountIs block Known) :
    SatisfiesM
      (OnSuccess fun resolved state =>
        ∃ count, Known count ∧ resolved.records.length = count ∧
          state.2.unused =
            (block.unused.eraseP (·.name = repeatName)).filter
              fun entry => entry.name = repeatName ∨ count = 0)
      (session.expand block) := by
  have hcount' : session.CountIs block.useHeader Known := hcount
  rw [expand]
  have hunread' : Block.Unread repeatName block.useHeader.params := hunread
  refine (countOf_unused hunread' hcount').bind fun snapshot hsnapshot => ?_
  cases snapshot with
  | error error => exact .pure .failure
  | ok visible =>
    refine SatisfiesM.trivial.bind fun header _ => ?_
    cases header with
    | error error => exact .pure .failure
    | ok data =>
      refine (hsnapshot visible rfl).bind fun counted hcounted => ?_
      obtain ⟨error | count, counted⟩ := counted
      · exact .pure .failure
      · refine (iterations_unused counted count 0).bind fun outcome houtcome => .pure ?_
        obtain ⟨error | records, state⟩ := outcome
        · exact .failure
        · obtain ⟨hlength, hunused⟩ := houtcome records rfl
          have hfirst : counted.unused = block.unused.eraseP (·.name = repeatName) := hcounted.1
          rw [hfirst] at hunused
          exact .success ⟨count, hcounted.2 count rfl, hlength, hunused⟩

/-! ## Blocks that define a variable -/

/-- **A variable that is defined** has read the first parameter with its data and the first one with
its policy. -/
theorem defineNamed_unused (hdata : Block.Unread "data".toList block.params)
    (hrecompute : Block.Unread "recompute".toList block.params) (name : Text) :
    SatisfiesM
      (OnSuccess fun _ state =>
        state.2.unused =
          (block.unused.eraseP (·.name = "data".toList)).eraseP (·.name = "recompute".toList))
      (session.defineNamed block name) := by
  have hafter : Block.Unread "recompute".toList (block.useParam "data".toList).params :=
    hrecompute.useFirst (by decide)
  have hused : (block.useParam "data".toList).unused =
      block.unused.eraseP (·.name = "data".toList) := Block.unusedDirectives_useFirst hdata
  rw [defineNamed]
  refine SatisfiesM.trivial.bind fun snapshot _ => ?_
  cases snapshot with
  | error error => exact .pure .failure
  | ok visible =>
    dsimp only
    rw [policyOf_eq_ask]
    refine (ask_unused (fun _ => True) hafter fun param _ =>
      SatisfiesM.trivial.imp fun _ value _ => True.intro).bind fun asked hasked => ?_
    have hunused := hasked.1
    rw [hused] at hunused
    obtain ⟨error | policy, after⟩ := asked
    · exact .pure .failure
    · -- from here on the parameters stay as they are
      refine SatisfiesM.trivial.bind fun defined _ => ?_
      obtain ⟨error | _, globals⟩ := defined
      · exact .pure .failure
      · refine SatisfiesM.trivial.bind fun value _ => ?_
        cases value with
        | error error => exact .pure .failure
        | ok value => exact .pure (.success hunused)

/-- So has every block that defines one. -/
theorem defineVariable_unused (hdata : Block.Unread "data".toList block.params)
    (hrecompute : Block.Unread "recompute".toList block.params) :
    SatisfiesM
      (OnSuccess fun _ state =>
        state.2.unused =
          (block.unused.eraseP (·.name = "data".toList)).eraseP (·.name = "recompute".toList))
      (session.defineVariable block) := by
  have hused {name : Text} (h : Block.Unread name block.params) :
      Block.Unread name block.useHeader.params := h
  rw [defineVariable]
  split
  · exact defineNamed_unused (hused hdata) (hused hrecompute) _
  · exact .pure .failure

/-! ## Runs -/

/-- Directives are reported with their names, so what is taken from a report by the name is taken
from the directives. -/
theorem listed_eraseP (directives : List Directive) (name : Text) :
    (listed directives).eraseP (·.name = name) = listed (directives.eraseP (·.name = name)) :=
  List.eraseP_map ..

/-- So is what is kept by the name. -/
theorem listed_filter (directives : List Directive) (keeps : Text → Bool) :
    (listed directives).filter (fun entry => keeps entry.name) =
      listed (directives.filter fun directive => keeps directive.name) :=
  List.filter_map ..

/-- **The list of unused parameters is exact,** whatever has been read or run before.

* A block that defines a variable reports every parameter except the first one with the data and the
  first one with the policy.
* Any other block reports every parameter that counts the repetitions except the first one, and if
  there are no repetitions, every other parameter as well. There are as many repetitions as it has
  records, and their number is one that is known of the block. -/
theorem runBlock_unused (session : Session m) (block : Block) :
    (block.kind = .variable →
      SatisfiesM
        (OnSuccess fun resolved _ =>
          resolved.unused =
            listed ((block.params.eraseP (·.name = "data".toList)).eraseP
              (·.name = "recompute".toList)))
        (session.runBlock block)) ∧
    (block.kind ≠ .variable → ∀ Known, session.CountIs block Known →
      SatisfiesM
        (OnSuccess fun resolved _ =>
          ∃ count, Known count ∧ resolved.records.length = count ∧
            resolved.unused =
              listed ((block.params.eraseP (·.name = repeatName)).filter
                fun param => param.name = repeatName ∨ count = 0))
        (session.runBlock block)) := by
  have hunread := block.unread_of_resetUsage
  have hreset := block.unused_resetUsage
  refine ⟨?_, ?_⟩
  · intro hkind
    have hkind' : block.resetUsage.kind = .variable := hkind
    unfold runBlock
    simp only [hkind']
    refine (defineVariable_unused (hunread _) (hunread _)).bind fun outcome houtcome => .pure ?_
    obtain ⟨error | resolved, state⟩ := outcome
    · exact .failure
    · refine .success ?_
      rw [houtcome resolved rfl, hreset, listed_eraseP, listed_eraseP]
  · intro hkind Known hcount
    have hkind' : block.resetUsage.kind ≠ .variable := hkind
    unfold runBlock
    dsimp only
    split
    · contradiction
    · refine (expand_unused (hunread _) hcount.resetUsage).bind fun outcome houtcome => .pure ?_
      obtain ⟨error | resolved, state⟩ := outcome
      · exact .failure
      · obtain ⟨count, hknown, hlength, hunused⟩ := houtcome resolved rfl
        refine .success ⟨count, hknown, hlength, ?_⟩
        rw [hunused, hreset, listed_eraseP]
        exact listed_filter _ fun name => decide (name = repeatName ∨ count = 0)

/-- A block that asks twice for a number of repetitions, first for none. Two of its parameters have
been read before. -/
def idleBlock : Block where
  header := ⟨"0:wall".toList, 1, .function, ⟨['0'], some "wall".toList⟩,
    ⟨['0'], some "wall".toList⟩, none, .onEveryRead, [], true⟩
  params :=
    [⟨"repeat:0".toList, 2, .parameter, ⟨repeatName, some ['0']⟩, ⟨repeatName, some ['0']⟩, none,
      .onEveryRead, [], false⟩,
    ⟨"size:1".toList, 3, .parameter, ⟨"size".toList, some ['1']⟩, ⟨"size".toList, some ['1']⟩, none,
      .onEveryRead, [], true⟩,
    ⟨"repeat:3".toList, 4, .parameter, ⟨repeatName, some ['3']⟩, ⟨repeatName, some ['3']⟩, none,
      .onEveryRead, [], true⟩]

/-- Nothing is repeated, so the size is not read, nor is the second count. -/
theorem runBlock_unused_idle :
    (start (Resolver.of (.empty : Registry Id) .standard)).CountIs idleBlock (· = 0) ∧
      ∃ resolved,
        ((start (Resolver.of (.empty : Registry Id) .standard)).runBlock idleBlock).run.result =
          .ok resolved ∧
        resolved.records = [] ∧ resolved.unused = [⟨"size".toList, 3⟩, ⟨repeatName, 4⟩] := by
  have hcount : (start (Resolver.of (.empty : Registry Id) .standard)).CountIs idleBlock
      (· = 0) := by
    refine SatisfiesM_Id_eq.2 ?_
    rintro visible ⟨⟩
    refine SatisfiesM_Id_eq.2 ?_
    intro value hvalue count hcount
    have hzero : (Directive.current (Resolver.of (.empty : Registry Id) .standard) []
        (idleBlock.params.head (by decide))).run = .ok (some ['0']) :=
      eq_ok_of_toOption (by decide +kernel)
    obtain rfl := Except.ok.inj (hzero.symm.trans hvalue)
    have hnumber : Text.natBelow? (Nat.pow 2 64) (Text.trim ['0']) = some 0 := by decide +kernel
    exact Option.some.inj (hcount.symm.trans hnumber)
  have hunused := (runBlock_unused (start (Resolver.of (.empty : Registry Id) .standard))
    idleBlock).2 (by decide) (· = 0) hcount
  rw [SatisfiesM_Id_eq] at hunused
  obtain ⟨resolved, hresult⟩ := exists_ok_of_isOk (show
    ((start (Resolver.of (.empty : Registry Id) .standard)).runBlock idleBlock).run.result.isOk =
      true by decide +kernel)
  obtain ⟨count, rfl, hlength, hlist⟩ := hunused resolved hresult
  refine ⟨hcount, resolved, hresult, List.length_eq_zero_iff.1 hlength, ?_⟩
  rw [hlist]
  decide

end Session

end MapScript
