/-
Where the first call of a name stands.

A call site is a position at which a text has a name, in either case of its ASCII letters, with a
parenthesis directly behind it (`CallAt`). That is a matter of characters: the name may hold any of
them, overlap itself, or be the end of a longer word. The search compares characters in lower case,
and these agree exactly when they are one letter in either case (`toLower_eq_toLower_iff`), so what
it finds is the first call site (`findCall?_of_firstCallAt`).

A search among the bytes of the text in lower case would find the same place
(`isLeast_calledAtByte_iff`). A call that stands at a byte stands at the beginning of a character,
and characters that stand later have later bytes.

The parentheses are counted from the one of the call on, with nothing escaped there, whatever
stands before it. This is the nesting in the rest of the text, so the span of the call ends where
the first span of that rest does (`focusCall_firstCall`).
-/
import MapScript.Proofs.Bytes
import MapScript.Proofs.Focus

set_option autoImplicit false

namespace MapScript.Span

open Text (bytes byteSize lowerByte)

/-! ## Letters in either case -/

/-- **One letter in either case:** equal characters, or a capital letter of ASCII and the small one,
which stands 32 above it. -/
def SameLetter (c d : Char) : Prop :=
  c = d ∨ (('A' ≤ c ∧ c ≤ 'Z') ∧ d.toNat = c.toNat + 32) ∨
    (('A' ≤ d ∧ d ≤ 'Z') ∧ c.toNat = d.toNat + 32)

instance (c d : Char) : Decidable (SameLetter c d) :=
  inferInstanceAs (Decidable (_ ∨ _ ∨ _))

/-- **Characters agree in lower case exactly when they are one letter in either case.** -/
theorem toLower_eq_toLower_iff {c d : Char} : c.toLower = d.toLower ↔ SameLetter c d := by
  rw [SameLetter, ← Char.toNat_inj, ← Char.toNat_inj, Text.toNat_toLower, Text.toNat_toLower]
  simp only [Text.isCapital_iff]
  split <;> split <;> omega

/-- So texts do when this holds character by character. -/
theorem forall₂_sameLetter_iff {left right : Text} :
    List.Forall₂ SameLetter left right ↔ left.map Char.toLower = right.map Char.toLower := by
  rw [← List.forall₂_eq_eq_eq, List.forall₂_map_left_iff, List.forall₂_map_right_iff]
  simp only [toLower_eq_toLower_iff]

/-! ## Call sites -/

/-- **A call site:** the name stands at a position, in either case of its letters, and the
parenthesis directly behind it. -/
structure CallAt (name text : Text) (p : Nat) : Prop where
  named : List.Forall₂ SameLetter ((text.drop p).take name.length) name
  opened : text[p + name.length]? = some '('

instance (name text : Text) (p : Nat) : Decidable (CallAt name text p) :=
  decidable_of_iff
    (((text.drop p).take name.length).map Char.toLower = name.map Char.toLower ∧
      text[p + name.length]? = some '(')
    ⟨fun h => ⟨forall₂_sameLetter_iff.2 h.1, h.2⟩, fun h => ⟨forall₂_sameLetter_iff.1 h.1, h.2⟩⟩

/-- The first call site of a text. -/
def FirstCallAt (name text : Text) (p : Nat) : Prop :=
  CallAt name text p ∧ ∀ i < p, ¬ CallAt name text i

instance (name text : Text) (p : Nat) : Decidable (FirstCallAt name text p) :=
  inferInstanceAs (Decidable (_ ∧ _))

variable {name text : Text} {p : Nat}

/-- **A call site is a position from which on the text in lower case begins as a call does.** -/
theorem callAt_iff :
    CallAt name text p ↔ name.map Char.toLower ++ ['('] <+: (text.drop p).map Char.toLower := by
  constructor
  · rintro ⟨hnamed, hopened⟩
    rw [← List.getElem?_drop] at hopened
    obtain ⟨hlt, hget⟩ := List.getElem?_eq_some_iff.1 hopened
    have hrest : (text.drop p).drop name.length = '(' :: (text.drop p).drop (name.length + 1) := by
      rw [← hget, List.drop_eq_getElem_cons hlt]
    refine ⟨((text.drop p).drop (name.length + 1)).map Char.toLower, ?_⟩
    conv_rhs => rw [← List.take_append_drop name.length (text.drop p), hrest]
    simp [forall₂_sameLetter_iff.1 hnamed]
  · rintro ⟨after, hafter⟩
    obtain ⟨piece, rest, hcut, hpiece, -⟩ := List.map_eq_append_iff.1 hafter.symm
    obtain ⟨lead, paren, rfl, hlead, hparen⟩ := List.map_eq_append_iff.1 hpiece
    obtain ⟨c, rfl, hc⟩ := List.map_eq_singleton_iff.1 hparen
    obtain rfl := (toLower_eq_iff (by decide)).1 hc
    have hlength : lead.length = name.length := by simpa using congrArg List.length hlead
    rw [List.append_assoc] at hcut
    refine ⟨?_, ?_⟩
    · rw [hcut, List.take_left' hlength]
      exact forall₂_sameLetter_iff.2 hlead
    · rw [← List.getElem?_drop, hcut, List.getElem?_append_right hlength.le, hlength]
      simp

/-- **What is found is the first call site,** with the text before it, the name as it is written
there and the parenthesis, and the text behind that. -/
theorem findCall?_of_firstCallAt (hname : name ≠ []) (hp : FirstCallAt name text p) :
    findCall? text name '(' =
      some ⟨text.take p, (text.drop p).take name.length ++ ['('],
        text.drop (p + name.length + 1)⟩ := by
  have hfind := Text.findFolded?_of_first (callAt_iff.1 hp.1)
    fun i hi hcall => hp.2 i hi (callAt_iff.2 hcall)
  rw [List.length_append, List.length_map, List.length_singleton, List.take_add_one,
    List.getElem?_drop, hp.1.opened, List.drop_drop] at hfind
  rw [findCall?, if_neg hname]
  exact hfind

/-- Where nothing is found there is no call site. -/
theorem findCall?_of_no_callAt (hnone : ∀ i, ¬ CallAt name text i) :
    findCall? text name '(' = none := by
  refine findCall?_eq_none_iff.2 (.inr fun hinfix => ?_)
  obtain ⟨rest, hprefix, hsuffix⟩ := List.infix_iff_prefix_suffix.1 hinfix
  rw [List.suffix_iff_eq_drop.1 hsuffix, ← List.map_drop] at hprefix
  exact hnone _ (callAt_iff.2 hprefix)

/-- A text with a call site has a first one. -/
theorem exists_firstCallAt (h : ∃ i, CallAt name text i) : ∃ p, FirstCallAt name text p :=
  ⟨Nat.find h, Nat.find_spec h, fun _ hi => Nat.find_min h hi⟩

/-! ## The byte of a call -/

/-- The byte at which the first call of a name stands, as a search reports it. -/
def callByte? (text name : Text) : Option Nat :=
  (findCall? text name '(').map (·.before.byteSize)

/-- **A call among the bytes:** from a byte on the bytes of the text, in lower case, are those of
the name, in lower case, and of the parenthesis. -/
def CalledAtByte (name text : Text) (n : Nat) : Prop :=
  (bytes name).map lowerByte ++ bytes ['('] <+: ((bytes text).map lowerByte).drop n

/-- **A call stands at a byte exactly when this is the first byte of a call site.** -/
theorem calledAtByte_iff {n : Nat} :
    CalledAtByte name text n ↔ ∃ p, CallAt name text p ∧ n = byteSize (text.take p) := by
  have hpiece : name.map Char.toLower ++ ['('] ≠ [] := by simp
  unfold CalledAtByte
  rw [Text.map_lowerByte_bytes, Text.map_lowerByte_bytes, ← Text.bytes_append,
    Text.bytes_prefix_drop_iff hpiece]
  simp only [callAt_iff, ← List.map_take, Text.byteSize_map_toLower, ← List.map_drop, and_comm]

/-- **The first call among the bytes is the first byte of the first call site.** -/
theorem isLeast_calledAtByte_iff {n : Nat} :
    IsLeast {m | CalledAtByte name text m} n ↔
      ∃ p, FirstCallAt name text p ∧ n = byteSize (text.take p) := by
  have hleast {p : Nat} (hp : FirstCallAt name text p) :
      IsLeast {m | CalledAtByte name text m} (byteSize (text.take p)) := by
    refine ⟨calledAtByte_iff.2 ⟨p, hp.1, rfl⟩, ?_⟩
    intro m hm
    obtain ⟨i, hi, rfl⟩ := calledAtByte_iff.1 hm
    have hpi : p ≤ i := by
      by_contra hlt
      exact hp.2 i (by omega) hi
    exact Text.byteSize_take_mono text hpi
  constructor
  · intro hn
    obtain ⟨i, hi, -⟩ := calledAtByte_iff.1 hn.1
    obtain ⟨p, hp⟩ := exists_firstCallAt ⟨i, hi⟩
    exact ⟨p, hp, hn.unique (hleast hp)⟩
  · rintro ⟨p, hp, rfl⟩
    exact hleast hp

/-- **The byte that a search reports is the first byte of the first call site.** -/
theorem callByte?_eq_some_iff (hname : name ≠ []) {n : Nat} :
    callByte? text name = some n ↔ ∃ p, FirstCallAt name text p ∧ n = byteSize (text.take p) := by
  by_cases hcall : ∃ i, CallAt name text i
  · obtain ⟨p, hp⟩ := exists_firstCallAt hcall
    have hbyte : callByte? text name = some (byteSize (text.take p)) := by
      rw [callByte?, findCall?_of_firstCallAt hname hp]
      rfl
    -- there is only one first call site
    have hfirst := isLeast_calledAtByte_iff.2 ⟨p, hp, rfl⟩
    rw [hbyte, Option.some.injEq, ← isLeast_calledAtByte_iff]
    constructor
    · rintro rfl
      exact hfirst
    · exact hfirst.unique
  · have hnone := findCall?_of_no_callAt (not_exists.1 hcall)
    rw [callByte?, hnone]
    constructor
    · intro h
      cases h
    · rintro ⟨p, hp, -⟩
      exact absurd ⟨p, hp.1⟩ hcall

/-! ## The parentheses of a call -/

/-- **The balance of the parentheses** from a position up to but not including another, where
escapes are read from the first position on. -/
def balance (text : Text) (start stop : Nat) : Int :=
  nesting '(' ')' (text.drop start) 0 (stop - start)

/-- **The first call of a text by its positions.** At the first one the name begins, and at the
second one the balance of the parentheses, counted from that of the call, is zero again for the
first time. -/
structure FirstCall (name text : Text) (p q : Nat) : Prop where
  called : FirstCallAt name text p
  lt : p + name.length < q
  closes : balance text (p + name.length) (q + 1) = 0
  nested : ∀ i < q, p + name.length < i → balance text (p + name.length) (i + 1) ≠ 0

/-- Nothing stands before the parenthesis of a call in the text from there on, so it is not
escaped there. -/
theorem CallAt.unescapedAt (h : CallAt name text p) :
    UnescapedAt '(' (text.drop (p + name.length)) 0 := by
  refine ⟨?_, ?_⟩
  · rw [List.getElem?_drop, Nat.add_zero]
    exact h.opened
  · rw [EscapedAt, List.take_zero]
    decide

/-- The text from the parenthesis of a call on. -/
theorem CallAt.drop_eq (h : CallAt name text p) :
    text.drop (p + name.length) = '(' :: text.drop (p + name.length + 1) := by
  obtain ⟨hlt, hget⟩ := List.getElem?_eq_some_iff.1 h.opened
  rw [← hget, List.drop_eq_getElem_cons hlt]

/-- **The call that is focused is the first one,** closed in the text from its parenthesis on. -/
theorem focusCall_of_firstCallAt (hname : name ≠ []) (hp : FirstCallAt name text p) :
    focusCall text name '(' ')' =
      close text (text.take p) ((text.drop p).take name.length) (text.drop (p + name.length))
        '(' ')' := by
  have hlength : ((text.drop p).take name.length).length = name.length := hp.1.named.length_eq
  rw [focusCall_of_findCall? (findCall?_of_firstCallAt hname hp) hlength, ← hp.1.drop_eq]

/-- In the text from its parenthesis on, the first call is the first span. -/
theorem FirstCall.firstSpan {q : Nat} (h : FirstCall name text p q) :
    FirstSpan '(' ')' (text.drop (p + name.length)) 0 (q - (p + name.length)) := by
  have hlt := h.lt
  have hcloses := h.closes
  refine ⟨h.called.1.unescapedAt, fun i hi => absurd hi (by omega), by omega, ?_, ?_⟩
  · rwa [balance, Nat.succ_sub hlt.le] at hcloses
  · intro i hi hpos
    have hnested := h.nested (p + name.length + i) (by omega) (by omega)
    have hstop : p + name.length + i + 1 - (p + name.length) = i + 1 := by omega
    rwa [balance, hstop] at hnested

/-- **The first call of a text is focused:** the text before it, the name as it is written there,
the text between its parentheses, and the text behind them. -/
theorem focusCall_of_firstCall (hname : name ≠ []) {q : Nat} (h : FirstCall name text p q) :
    focusCall text name '(' ')' =
      .ok ⟨text.take p, (text.drop p).take name.length, (text.take q).drop (p + name.length + 1),
        text.drop (q + 1), '(', ')'⟩ := by
  have hsplit := h.firstSpan.splitClosing_eq .parentheses
  have hlt := h.lt
  -- positions in the text from the parenthesis on are positions in the text
  have hafter : p + name.length + (q - (p + name.length) + 1) = q + 1 := by omega
  rw [List.drop_drop, ← h.called.1.drop_eq, ← List.drop_take, List.drop_drop, List.drop_drop,
    hafter] at hsplit
  rw [focusCall_of_firstCallAt hname h.called]
  simp only [close, hsplit, List.drop_succ_cons, List.drop_zero]

/-- Where the parenthesis of the first call is not closed, nothing is focused. -/
theorem focusCall_of_unclosed (hname : name ≠ []) (hp : FirstCallAt name text p)
    (hopen : ∀ q, p + name.length < q → balance text (p + name.length) (q + 1) ≠ 0) :
    focusCall text name '(' ')' = .error (.malformedBracket '(' ')' text) := by
  have hsplit := splitClosing_of_unclosed .parentheses hp.1.unescapedAt fun i hi => by
    have hne := hopen (p + name.length + i) (by omega)
    have hstop : p + name.length + i + 1 - (p + name.length) = i + 1 := by omega
    rwa [balance, hstop] at hne
  rw [List.drop_drop, ← hp.1.drop_eq] at hsplit
  rw [focusCall_of_firstCallAt hname hp]
  simp only [close, hsplit]

/-- **A text without a first call that is closed has no call that can be focused,** also where a
later call is closed. -/
theorem focusCall_of_no_firstCall (hname : name ≠ []) (h : ¬ ∃ p q, FirstCall name text p q) :
    focusCall text name '(' ')' = .error (.malformedBracket '(' ')' text) := by
  by_cases hcall : ∃ i, CallAt name text i
  · obtain ⟨p, hp⟩ := exists_firstCallAt hcall
    refine focusCall_of_unclosed hname hp ?_
    intro i hpi hzero
    have hclosing : ∃ q, p + name.length < q ∧ balance text (p + name.length) (q + 1) = 0 :=
      ⟨i, hpi, hzero⟩
    obtain ⟨hlt, hcloses⟩ := Nat.find_spec hclosing
    exact h ⟨p, _, hp, hlt, hcloses,
      fun j hj hpj hjzero => Nat.find_min hclosing hj ⟨hpj, hjzero⟩⟩
  · rw [focusCall, findCall?_of_no_callAt (not_exists.1 hcall)]

/-- **The first call of a name is exactly the one between the positions that say so.**

* Where `p` and `q` are the positions of the name and of the closing parenthesis, the span has the
  text up to `p` before it, the name as it is written there, the text between the parentheses inside
  and the text after `q` behind it. These parts with the parentheses are the text.
* Where there are no such positions the parentheses do not pair up, and the error has the whole
  text.
* A search reports the first byte of the first call site, and nothing where there is none.
* This is where a search among the bytes finds the first call, and every call that stands among the
  bytes begins with a character. -/
theorem focusCall_firstCall {name : Text} (hname : name ≠ []) (text : Text) :
    (∀ p q, FirstCall name text p q →
      focusCall text name '(' ')' =
          .ok ⟨text.take p, (text.drop p).take name.length,
            (text.take q).drop (p + name.length + 1), text.drop (q + 1), '(', ')'⟩ ∧
        text.take p ++ ((text.drop p).take name.length ++
          '(' :: ((text.take q).drop (p + name.length + 1) ++ ')' :: text.drop (q + 1))) = text) ∧
    ((¬ ∃ p q, FirstCall name text p q) →
      focusCall text name '(' ')' = .error (.malformedBracket '(' ')' text)) ∧
    (∀ n, callByte? text name = some n ↔
      ∃ p, FirstCallAt name text p ∧ n = byteSize (text.take p)) ∧
    (∀ n, callByte? text name = some n ↔ IsLeast {m | CalledAtByte name text m} n) ∧
    (∀ n, CalledAtByte name text n → ∃ p, CallAt name text p ∧ n = byteSize (text.take p)) := by
  refine ⟨?_, focusCall_of_no_firstCall hname, fun n => callByte?_eq_some_iff hname, ?_, ?_⟩
  · intro p q h
    have hfocus := focusCall_of_firstCall hname h
    refine ⟨hfocus, ?_⟩
    obtain ⟨hwhole, -⟩ := rewrap_inside_of_focusCall hfocus
    simpa [rewrap] using hwhole
  · intro n
    rw [callByte?_eq_some_iff hname, isLeast_calledAtByte_iff]
  · intro n hn
    exact calledAtByte_iff.1 hn

/-- The name overlaps itself, its letters are found in either case, and the character before it is
two bytes long. The parenthesis behind the backslash is not counted. In the second text the first
call is not closed, and the later one does not matter. -/
theorem focusCall_firstCall_overlapping :
    "éaé".toList ≠ [] ∧
    FirstCall "éaé".toList "éaéAé((\\)b))c".toList 2 11 ∧
    focusCall "éaéAé((\\)b))c".toList "éaé".toList '(' ')' =
      .ok ⟨"éa".toList, "éAé".toList, "(\\)b)".toList, "c".toList, '(', ')'⟩ ∧
    callByte? "éaéAé((\\)b))c".toList "éaé".toList = some 3 ∧
    focusCall "f(f()".toList "f".toList '(' ')' =
      .error (.malformedBracket '(' ')' "f(f()".toList) := by
  have hcall : FirstCall "éaé".toList "éaéAé((\\)b))c".toList 2 11 :=
    ⟨by decide, by decide, by decide, by decide⟩
  have hname : "éaé".toList ≠ [] := by decide
  have hoverlapping := focusCall_firstCall hname "éaéAé((\\)b))c".toList
  refine ⟨hname, hcall, (hoverlapping.1 2 11 hcall).1,
    (hoverlapping.2.2.1 3).2 ⟨2, hcall.called, by decide⟩, ?_⟩
  refine (focusCall_firstCall (List.cons_ne_nil _ _) "f(f()".toList).2.1 ?_
  rintro ⟨p, q, h⟩
  obtain rfl : p = 0 := by
    by_contra hp
    exact h.called.2 0 (by omega) (by decide)
  have hq : q < 5 := by
    have hlength := h.firstSpan.lt_length .parentheses
    simp at hlength
    omega
  have hlt : 1 < q := h.lt
  have hcloses := h.closes
  interval_cases q <;> revert hcloses <;> decide

end MapScript.Span
