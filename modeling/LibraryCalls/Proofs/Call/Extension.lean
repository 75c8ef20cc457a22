import Mathlib
import LibraryCalls.Proofs.Call.Enclosed
import LibraryCalls.Proofs.Call.Written

/-!
# Arguments put behind others

A scan looks for its `=` in all of the text that is left, so arguments that are put behind others
can change how those are read.  This module says when they do.

A text is extended by a terminator and more text behind it.  As far as the machine is concerned this
changes nothing, provided that no value was open when the first text ended: a run that went to the
end of the text now stops at the terminator, with the same characters kept.  What does change is the
search for the equals sign, which goes through all of the text that is left and so may now find one.

The walk through the first text is followed scan by scan, and at each scan the two cases are an
equals sign that was there before and none at all.

* `Argument.remainders`: the texts that the scans of a walk have before them;
* `QuotesClosed`: no scan of the walk ends between quotes;
* `ReadWithEquals`: each argument was read with an `=`;
* `prefix_iff_of_scanAll`: the arguments read before are kept exactly when each of them was read
  with an `=`, or when no `=` has come to them;
* `arguments_prefix_iff`: the same for calls.
-/

namespace LibraryCalls

open Text Call

namespace Argument

variable {terminators : List Char}

/-! ### The texts before each scan -/

/-- The texts that the scans of a walk have before them, the last one being the text in which no
argument is left. -/
def remainders (terminators source : List Char) : List (List Char) :=
  (0 :: (scanFrom terminators source 0).1.map (·.resume)).map source.drop

theorem remainders_of_none {cs : List Char} (h : scan terminators cs 0 = .ok none) :
    remainders terminators cs = [cs] := by
  rw [remainders, scanFrom_eq, h]
  rfl

/-- A walk that has read one argument goes on as the walk through the rest. -/
theorem remainders_of_some {cs : List Char} {r : Scanned}
    (h : scan terminators cs 0 = .ok (some r)) :
    remainders terminators cs = cs :: remainders terminators (cs.drop r.resume) := by
  rw [remainders, scanFrom_eq, h, remainders]
  simp only [scanFrom_shift cs r.resume, List.map_cons, List.map_map, List.drop_zero,
    Function.comp_def, List.drop_drop]
  congr 3
  funext q
  rw [Nat.add_comm]

/-- No scan of the walk through the text ends between quotes. -/
def QuotesClosed (terminators source : List Char) : Prop :=
  ∀ rest ∈ remainders terminators source,
    ∀ r ∈ Mode.lead.pass terminators (split rest 0).2.2, r.2.quoted = false

/-- Each argument of the text was read with an `=`, so that it ends a name. -/
def ReadWithEquals (terminators source : List Char) : Prop :=
  ∀ rest ∈ (remainders terminators source).dropLast, '=' ∈ rest

theorem readWithEquals_of_none {cs : List Char} (h : scan terminators cs 0 = .ok none) :
    ReadWithEquals terminators cs := by
  rw [ReadWithEquals, remainders_of_none h]
  simp

theorem readWithEquals_of_some {cs : List Char} {r : Scanned}
    (h : scan terminators cs 0 = .ok (some r)) :
    ReadWithEquals terminators cs ↔
      '=' ∈ cs ∧ ReadWithEquals terminators (cs.drop r.resume) := by
  have hne : remainders terminators (cs.drop r.resume) ≠ [] := by simp [remainders]
  rw [ReadWithEquals, remainders_of_some h, List.dropLast_cons_of_ne_nil hne]
  simp only [List.mem_cons, forall_eq_or_imp]
  rfl

/-! ### One scan of a longer text -/

/-- A run that does not end between quotes keeps the same characters when a terminator and more text
follow.  It ends where it ended, or behind the terminator when it ended with the text. -/
theorem scanValue_extend (hT : Terminating terminators) {pos resume : Nat} {cs kept : List Char}
    (h : scanValue terminators .lead pos cs = .ok (kept, resume))
    (hclosed : ∀ r ∈ Mode.lead.pass terminators cs, r.2.quoted = false)
    {sep : Char} (hsep : sep ∈ terminators) (t : List Char) :
    ∃ resume', scanValue terminators .lead pos (cs ++ sep :: t) = .ok (kept, resume') ∧
      ((resume ≤ pos + cs.length ∧ resume' = resume) ∨
        (resume = pos + cs.length ∧ resume' = resume + 1)) := by
  obtain ⟨p, rest, mid, rfl, hpass, hstop, rfl⟩ := scanValue_eq_ok_iff.1 h
  cases rest with
  | nil =>
    rw [List.append_nil] at hclosed ⊢
    have hmid : mid.quoted = false := hclosed _ hpass
    refine ⟨pos + p.length + 1, ?_, .inr ⟨rfl, rfl⟩⟩
    refine scanValue_eq_ok_iff.2 ⟨p, sep :: t, mid, rfl, hpass, ?_, rfl⟩
    intro u hu
    obtain rfl : sep = u := by simpa using hu
    exact act_terminator hT hmid hsep
  | cons u rest =>
    refine ⟨pos + p.length + 1, ?_, .inl ⟨?_, rfl⟩⟩
    · exact scanValue_eq_ok_iff.2
        ⟨p, u :: (rest ++ sep :: t), mid, by simp, hpass, by simpa using hstop, rfl⟩
    · simp only [List.length_append, List.length_cons, List.take_succ_cons, List.take_zero,
        List.length_nil]
      omega

/-- A scan reads the same argument when a terminator and more text follow, unless it has found no
`=` and one follows. -/
theorem scan_extend (hT : Terminating terminators) {cs : List Char} {a : Argument} {resume : Nat}
    (h : scan terminators cs 0 = .ok (some ⟨a, resume⟩))
    (hclosed : ∀ r ∈ Mode.lead.pass terminators (split cs 0).2.2, r.2.quoted = false)
    {sep : Char} (hsep : sep ∈ terminators) {t : List Char} (hequals : '=' ∈ cs ∨ '=' ∉ t) :
    ∃ resume', scan terminators (cs ++ sep :: t) 0 = .ok (some ⟨a, resume'⟩) ∧
      ((resume ≤ cs.length ∧ resume' = resume) ∨
        (resume = cs.length ∧ resume' = cs.length + 1)) := by
  rcases scan_eq_some_iff.1 h with ⟨before, after, kept, rfl, hb, hv, rfl⟩ |
    ⟨hno, kept, hv, hk, rfl⟩
  · rw [split_of_equals hb] at hclosed
    obtain ⟨resume', hv', hresume⟩ := scanValue_extend hT hv hclosed hsep t
    refine ⟨resume', ?_, ?_⟩
    · rw [List.append_assoc, List.cons_append]
      exact scan_of_equals hb hv'
    · simp only [List.length_append, List.length_cons] at hresume ⊢
      omega
  · rw [split_of_not_mem hno] at hclosed
    obtain ⟨resume', hv', hresume⟩ := scanValue_extend hT hv hclosed hsep t
    refine ⟨resume', ?_, ?_⟩
    · have hno' : '=' ∉ cs ++ sep :: t := by
        rw [List.mem_append, List.mem_cons]
        rintro (hm | hm | hm)
        · exact hno hm
        · exact hT.ne_equals sep hsep hm.symm
        · exact (hequals.resolve_left hno) hm
      rw [scan_of_not_mem hno' hv', if_neg hk]
    · simp only [Nat.zero_add] at hresume
      omega

/-- Where no `=` was found and one comes to follow, what is read instead has a name: the terminator
between them stands in it. -/
theorem name_ne_of_equals (hT : Terminating terminators) {cs : List Char} (hno : '=' ∉ cs)
    {sep : Char} (hsep : sep ∈ terminators) {t : List Char} (ht : '=' ∈ t) {a : Argument}
    {resume : Nat} (h : scan terminators (cs ++ sep :: t) 0 = .ok (some ⟨a, resume⟩)) :
    a.name ≠ "" := by
  rcases equals_cases t with hno' | ⟨before, after, rfl, hb⟩
  · exact absurd ht hno'
  have hname : '=' ∉ cs ++ sep :: before := by
    rw [List.mem_append, List.mem_cons]
    rintro (hm | hm | hm)
    · exact hno hm
    · exact hT.ne_equals sep hsep hm.symm
    · exact hb hm
  have htext : cs ++ sep :: (before ++ '=' :: after) = (cs ++ sep :: before) ++ '=' :: after := by
    rw [List.append_assoc, List.cons_append]
  rw [htext] at h
  rcases scan_eq_some_iff.1 h with ⟨before', after', kept, heq, hb', -, rfl⟩ | ⟨hno', -⟩
  · -- both are the text before the first `=`
    have hcut := cutFirst_eq_some_iff.2 ⟨heq, hb'⟩
    rw [cutFirst_eq_some_iff.2 ⟨rfl, hname⟩] at hcut
    obtain ⟨rfl, -⟩ := Prod.mk.inj (Option.some.inj hcut)
    intro hempty
    have hblank : Blank (cs ++ sep :: before) :=
      trim_eq_nil_iff.1 (String.ofList_eq_empty_iff.1 hempty)
    have hsep' := hblank sep (List.mem_append_right cs List.mem_cons_self)
    rw [hT.not_blank sep hsep] at hsep'
    exact Bool.noConfusion hsep'
  · exact absurd (List.mem_append_right _ List.mem_cons_self) hno'

/-! ### All arguments of a longer text -/

/-- **When the arguments read before are kept.**  A terminator and more text behind a text leave its
arguments as they are exactly when each of them was read with an `=`, or when no `=` has come to
them. -/
theorem prefix_iff_of_scanAll (hT : Terminating terminators) {sep : Char}
    (hsep : sep ∈ terminators) (t : List Char) {cs : List Char} {first second : List Argument}
    (hfirst : scanAll terminators cs = .ok first) (hclosed : QuotesClosed terminators cs)
    (hsecond : scanAll terminators (cs ++ sep :: t) = .ok second) :
    first <+: second ↔ '=' ∉ t ∨ ReadWithEquals terminators cs := by
  induction first generalizing cs second with
  | nil =>
    have hnone := scanAll_eq_nil_iff.1 hfirst
    exact iff_of_true List.nil_prefix (.inr (readWithEquals_of_none hnone))
  | cons a first ih =>
    obtain ⟨resume, hscan, hrest⟩ := scanAll_eq_cons_iff.1 hfirst
    have hclosed' : ∀ r ∈ Mode.lead.pass terminators (split cs 0).2.2, r.2.quoted = false :=
      hclosed cs (by rw [remainders_of_some hscan]; exact List.mem_cons_self)
    have hclosedRest : QuotesClosed terminators (cs.drop resume) := fun rest hrest =>
      hclosed rest (by rw [remainders_of_some hscan]; exact List.mem_cons_of_mem cs hrest)
    rw [readWithEquals_of_some hscan]
    by_cases hequals : '=' ∈ cs ∨ '=' ∉ t
    · -- the first argument is read as before; the walk goes on behind it, or ends with the text
      obtain ⟨resume', hscan', hresume⟩ := scan_extend hT hscan hclosed' hsep hequals
      rw [scanAll_of_some hscan'] at hsecond
      cases hs : scanAll terminators ((cs ++ sep :: t).drop resume') with
      | error e => simp [hs] at hsecond
      | ok others =>
        rw [hs] at hsecond
        obtain rfl := Except.ok.inj hsecond
        rw [List.cons_prefix_cons]
        rcases hresume with ⟨hle, rfl⟩ | ⟨rfl, rfl⟩
        · rw [List.drop_append_of_le_length hle] at hs
          rw [ih hrest hclosedRest hs]
          tauto
        · have hnil := scanAll_blank hT blank_nil
          rw [List.drop_length] at hrest ⊢
          obtain rfl := Except.ok.inj (hnil.symm.trans hrest)
          have hread := readWithEquals_of_none (scanAll_eq_nil_iff.1 hnil)
          exact iff_of_true ⟨rfl, List.nil_prefix⟩ (by tauto)
    · -- no `=` was found before, and one follows now
      rw [not_or, not_not] at hequals
      refine iff_of_false ?_ (by tauto)
      rintro ⟨others, rfl⟩
      obtain ⟨resume', hscan', -⟩ := scanAll_eq_cons_iff.1 hsecond
      apply name_ne_of_equals hT hequals.1 hsep hequals.2 hscan'
      rcases scan_eq_some_iff.1 hscan with ⟨before, after, -, rfl, -⟩ | ⟨-, -, -, -, rfl⟩
      · exact absurd (List.mem_append_right before List.mem_cons_self) hequals.1
      · rfl

end Argument

/-! ### Calls with more arguments -/

namespace Call

open Argument

/-- **When more arguments leave the others as they are.**  Behind a comma and a blank any text may
follow the arguments of a call, whose last quote is closed.  The call that is then read begins with
the same arguments exactly when each of them was read with an `=`, or when the new text holds none:
an `=` that follows a positional argument ends a name that begins with it. -/
theorem arguments_prefix_iff (b : Brackets) (hb : b.Proper) (name s t : List Char)
    (hname : b.opening ∉ name) (first second : Call)
    (hfirst : parse b (b.enclose name s) = .ok first) (hclosed : QuotesClosed b.terminators s)
    (hsecond : parse b (b.enclose name (s ++ ',' :: ' ' :: t)) = .ok second) :
    first.arguments <+: second.arguments ↔ '=' ∉ t ∨ ReadWithEquals b.terminators s := by
  have hcomma : ',' ∈ b.terminators := Brackets.mem_terminators.2 (.inr rfl)
  have hspace : '=' ∉ ' ' :: t ↔ '=' ∉ t := by simp
  rw [← hspace]
  exact prefix_iff_of_scanAll hb.terminating hcomma (' ' :: t)
    ((parse_enclose_eq_ok_iff hname).1 hfirst).2 hclosed
    ((parse_enclose_eq_ok_iff hname).1 hsecond).2

/-- A named argument stays what it is when others follow its closed quote. -/
theorem arguments_prefix_quoted :
    Brackets.round.Proper ∧
      parse .round (Brackets.round.enclose "lib".toList "a=\"x,y\"".toList)
        = .ok ⟨"lib", [⟨"a", "x,y"⟩]⟩ ∧
      QuotesClosed Brackets.round.terminators "a=\"x,y\"".toList ∧
      parse .round (Brackets.round.enclose "lib".toList "a=\"x,y\", b=2, z".toList)
        = .ok ⟨"lib", [⟨"a", "x,y"⟩, ⟨"b", "2"⟩, ⟨"", "z"⟩]⟩ ∧
      [(⟨"a", "x,y"⟩ : Argument)] <+: [⟨"a", "x,y"⟩, ⟨"b", "2"⟩, ⟨"", "z"⟩] := by
  have hrem : remainders Brackets.round.terminators "a=\"x,y\"".toList
      = ["a=\"x,y\"".toList, []] := by cbv
  have hfirst : parse .round (Brackets.round.enclose "lib".toList "a=\"x,y\"".toList)
      = .ok ⟨"lib", [⟨"a", "x,y"⟩]⟩ := by cbv
  have hclosed : QuotesClosed Brackets.round.terminators "a=\"x,y\"".toList := by
    rw [QuotesClosed, hrem]
    decide
  have hsecond : parse .round (Brackets.round.enclose "lib".toList "a=\"x,y\", b=2, z".toList)
      = .ok ⟨"lib", [⟨"a", "x,y"⟩, ⟨"b", "2"⟩, ⟨"", "z"⟩]⟩ := by cbv
  refine ⟨Brackets.round_proper, hfirst, hclosed, hsecond, ?_⟩
  refine (arguments_prefix_iff .round Brackets.round_proper "lib".toList "a=\"x,y\"".toList
    "b=2, z".toList (by decide) _ _ hfirst hclosed hsecond).2 (.inr ?_)
  rw [ReadWithEquals, hrem]
  decide

/-- A positional argument is lost when a named one follows: the two are read as one. -/
theorem arguments_not_prefix :
    parse .round "lib(x)" = .ok ⟨"lib", [⟨"", "x"⟩]⟩ ∧
      QuotesClosed Brackets.round.terminators "x".toList ∧
      parse .round "lib(x, a=1)" = .ok ⟨"lib", [⟨"x, a", "1"⟩]⟩ ∧
      ¬ [(⟨"", "x"⟩ : Argument)] <+: [⟨"x, a", "1"⟩] := by
  have hrem : remainders Brackets.round.terminators "x".toList = ["x".toList, []] := by cbv
  refine ⟨by cbv, ?_, by cbv, by decide⟩
  rw [QuotesClosed, hrem]
  decide

end Call

end LibraryCalls
