import LibraryCalls.Proofs.Call.Phases

/-!
# Values without quotes

A value without quotes is kept as it is written, blanks and backslashes included, and loses the
blanks at its two ends.  One more thing is lost: a backslash that opens the value is kept, but the
machine does not take it for the beginning of the value, so that it drops the blanks behind it too.

What the machine drops here is described without the machine, by the function `closeUp` on texts.
It commutes with trimming, so that the value that is read is the text of the argument, trimmed and
closed up, in whichever order that is done.

The condition for nothing to be lost is that no blank stands before the first character which is
neither a blank nor a backslash, once the outer blanks are off.  For a value that begins with
another character this always holds.

* `Argument.valueText`: the text of a value, up to what ends it;
* `closeUp`: a text without the blanks before its first character that is neither a blank nor a
  backslash;
* `pass_closeUp`: the machine over a value without quotes;
* `closeUp_eq_self_iff`: the texts that lose nothing;
* `scan_unquoted`: what a scan makes of a value without quotes;
* `scan_lost_blank`: a value that loses a blank inside.
-/

namespace LibraryCalls

open Text

/-! ### Blanks behind backslashes -/

namespace Call

/-- The text without the blanks that the machine drops before it takes a value for begun: all blanks
before the first character that is neither a blank nor a backslash. -/
def closeUp : List Char → List Char
  | [] => []
  | c :: cs => if c = '\\' then c :: closeUp cs else if isBlank c then closeUp cs else c :: cs

/-- The machine does not take these characters for the beginning of a value. -/
def isOpening (c : Char) : Bool := c = '\\' || isBlank c

theorem closeUp_of_begins {c : Char} (h : c ≠ '\\' ∧ isBlank c = false) (cs : List Char) :
    closeUp (c :: cs) = c :: cs := by
  simp [closeUp, h.1, h.2]

theorem closeUp_backslash (cs : List Char) : closeUp ('\\' :: cs) = '\\' :: closeUp cs := by
  rw [closeUp, if_pos rfl]

theorem closeUp_of_isBlank {c : Char} (h : isBlank c = true) (cs : List Char) :
    closeUp (c :: cs) = closeUp cs := by
  rw [closeUp, if_neg (ne_of_isBlank h (by decide)), if_pos h]

theorem opening_cases (c : Char) :
    c = '\\' ∨ isBlank c = true ∨ (c ≠ '\\' ∧ isBlank c = false) := by
  by_cases hbackslash : c = '\\'
  · exact .inl hbackslash
  · cases hblank : isBlank c with
    | true => exact .inr (.inl rfl)
    | false => exact .inr (.inr ⟨hbackslash, rfl⟩)

theorem closeUp_blank_append {ws : List Char} (h : Blank ws) (cs : List Char) :
    closeUp (ws ++ cs) = closeUp cs := by
  induction ws with
  | nil => rfl
  | cons c ws ih =>
    have hc : isBlank c = true := h c List.mem_cons_self
    rw [List.cons_append, closeUp_of_isBlank hc]
    exact ih fun d hd => h d (List.mem_cons_of_mem c hd)

theorem exists_closeUp_append_blank {ws : List Char} (h : Blank ws) (cs : List Char) :
    ∃ ws', Blank ws' ∧ closeUp (cs ++ ws) = closeUp cs ++ ws' := by
  induction cs with
  | nil =>
    refine ⟨[], blank_nil, ?_⟩
    have hws := closeUp_blank_append h []
    rwa [List.append_nil] at hws
  | cons c cs ih =>
    obtain ⟨ws', hws', heq⟩ := ih
    rcases opening_cases c with rfl | hblank | hbegins
    · refine ⟨ws', hws', ?_⟩
      rw [List.cons_append, closeUp_backslash, closeUp_backslash, heq, List.cons_append]
    · refine ⟨ws', hws', ?_⟩
      rw [List.cons_append, closeUp_of_isBlank hblank, closeUp_of_isBlank hblank, heq]
    · refine ⟨ws, h, ?_⟩
      rw [List.cons_append, closeUp_of_begins hbegins, closeUp_of_begins hbegins]
      rfl

theorem head?_closeUp (cs : List Char) : ∀ c ∈ (closeUp cs).head?, isBlank c = false := by
  induction cs with
  | nil => simp [closeUp]
  | cons c cs ih =>
    rcases opening_cases c with rfl | hblank | hbegins
    · rw [closeUp_backslash]
      simp only [List.head?_cons, Option.mem_some_iff, forall_eq']
      decide
    · rw [closeUp_of_isBlank hblank]
      exact ih
    · rw [closeUp_of_begins hbegins]
      simpa using hbegins.2

theorem getLast?_closeUp {cs : List Char} (h : ∀ c ∈ cs.getLast?, isBlank c = false) :
    ∀ c ∈ (closeUp cs).getLast?, isBlank c = false := by
  induction cs with
  | nil => simp [closeUp]
  | cons c cs ih =>
    have hrest := ih fun d hd => h d (List.mem_getLast?_cons hd)
    rcases opening_cases c with rfl | hblank | hbegins
    · rw [closeUp_backslash]
      cases hcs : closeUp cs with
      | nil =>
        simp only [List.getLast?_singleton, Option.mem_some_iff, forall_eq']
        decide
      | cons d ds =>
        rw [hcs] at hrest
        rwa [List.getLast?_cons_cons]
    · rw [closeUp_of_isBlank hblank]
      exact hrest
    · rwa [closeUp_of_begins hbegins]

theorem trimmed_closeUp {cs : List Char} (h : Trimmed cs) : Trimmed (closeUp cs) :=
  ⟨head?_closeUp cs, getLast?_closeUp h.2⟩

/-- **Outer blanks** may be taken off before or after. -/
theorem trim_closeUp (cs : List Char) : trim (closeUp cs) = closeUp (trim cs) := by
  obtain ⟨left, right, hleft, hright, hcs⟩ := exists_blanks_trim cs
  obtain ⟨right', hright', heq⟩ := exists_closeUp_append_blank hright (left ++ trim cs)
  calc trim (closeUp cs)
      = trim (closeUp (left ++ trim cs) ++ right') := by rw [← heq, ← hcs]
    _ = trim (closeUp (trim cs)) := by
        rw [trim_append_blank hright', closeUp_blank_append hleft]
    _ = closeUp (trim cs) := trim_of_trimmed (trimmed_closeUp (trimmed_trim cs))

theorem length_closeUp_le (cs : List Char) : (closeUp cs).length ≤ cs.length := by
  fun_induction closeUp cs with
  | case1 => exact Nat.le_refl 0
  | case2 cs ih => simpa using ih
  | case3 c cs _ _ ih => exact Nat.le_succ_of_le ih
  | case4 c cs => exact Nat.le_refl _

/-- **The texts that lose nothing**: those in which no blank stands before the first character that
begins a value. -/
theorem closeUp_eq_self_iff {cs : List Char} :
    closeUp cs = cs ↔ ∀ c ∈ cs.takeWhile isOpening, isBlank c = false := by
  induction cs with
  | nil => simp [closeUp]
  | cons c cs ih =>
    rcases opening_cases c with rfl | hblank | hbegins
    · have hopening : isOpening '\\' = true := by decide
      have hbackslash : isBlank '\\' = false := by decide
      rw [closeUp_backslash, List.cons_inj_right, ih, List.takeWhile_cons_of_pos hopening,
        List.forall_mem_cons]
      exact (and_iff_right hbackslash).symm
    · have hopening : isOpening c = true := by simp [isOpening, hblank]
      rw [closeUp_of_isBlank hblank, List.takeWhile_cons_of_pos hopening]
      refine iff_of_false ?_ ?_
      · intro heq
        have hlength := length_closeUp_le cs
        rw [heq, List.length_cons] at hlength
        omega
      · intro hall
        exact ne_of_isBlank hblank (hall c List.mem_cons_self) rfl
    · have hopening : ¬ isOpening c = true := by simp [isOpening, hbegins]
      rw [closeUp_of_begins hbegins, List.takeWhile_cons_of_neg hopening]
      simp

theorem closeUp_eq_nil_iff {cs : List Char} : closeUp cs = [] ↔ Blank cs := by
  induction cs with
  | nil => exact iff_of_true rfl blank_nil
  | cons c cs ih =>
    rw [Blank, List.forall_mem_cons]
    rcases opening_cases c with rfl | hblank | hbegins
    · rw [closeUp_backslash]
      exact iff_of_false (List.cons_ne_nil _ _) fun h => absurd h.1 (by decide)
    · rw [closeUp_of_isBlank hblank, ih]
      exact (and_iff_right hblank).symm
    · rw [closeUp_of_begins hbegins]
      exact iff_of_false (List.cons_ne_nil _ _) fun h => ne_of_isBlank h.1 hbegins.2 rfl

/-! ### The machine over a value without quotes -/

variable {terminators : List Char}

/-- **The machine over a value without quotes** keeps all of it but the blanks before its beginning,
and has met nothing that ends it. -/
theorem pass_closeUp {cs : List Char} (h : ∀ c ∈ cs, isBare terminators c = true) :
    ∃ mid, Mode.lead.pass terminators cs = some (closeUp cs, mid) ∧
      (mid = .lead ∨ mid = .bare) := by
  induction cs with
  | nil => exact ⟨.lead, rfl, .inl rfl⟩
  | cons c cs ih =>
    have hbare := h c List.mem_cons_self
    obtain ⟨mid, hpass, hmid⟩ := ih fun d hd => h d (List.mem_cons_of_mem c hd)
    rcases opening_cases c with rfl | hblank | hbegins
    · rw [closeUp_backslash]
      exact ⟨mid, pass_keep rfl hpass, hmid⟩
    · have hbackslash : c ≠ '\\' := ne_of_isBlank hblank (by decide)
      have hterm : c ∉ terminators := by
        simp only [isBare, Bool.and_eq_true, Bool.or_eq_true, decide_eq_true_eq] at hbare
        exact hbare.2.resolve_left hbackslash
      have hskip := act_of_isBlank (.inl rfl) hblank hterm
      rw [if_neg hbackslash] at hskip
      rw [closeUp_of_isBlank hblank]
      exact ⟨mid, (pass_skip hskip cs).trans hpass, hmid⟩
    · have hlead : isLead terminators c = false := by
        simp only [isLead, hbegins.1, hbegins.2, decide_false, Bool.false_and, Bool.or_false]
      have hall : cs.takeWhile (isBare terminators) = cs :=
        List.takeWhile_eq_self_iff.2 fun d hd => h d (List.mem_cons_of_mem c hd)
      have hrest : Mode.bare.pass terminators cs = some (cs, .bare) := by
        have hbares : Mode.bare.pass terminators (cs.takeWhile (isBare terminators))
            = some (cs.takeWhile (isBare terminators), .bare) := pass_isBare cs
        rwa [hall] at hbares
      rw [closeUp_of_begins hbegins]
      exact ⟨.bare, pass_keep (act_lead_of_isBare hbare hlead) hrest, .inr rfl⟩

/-- Whether a value without quotes goes on at a character.  Quotes and backslashes do not end it,
even if they are among the terminators. -/
def goesOn (terminators : List Char) (c : Char) : Bool :=
  c = '"' || c = '\\' || c ∉ terminators

/-- **A run over a value without quotes** goes up to what ends it. -/
theorem scanValue_unquoted {cs : List Char} (hquote : '"' ∉ cs.takeWhile (goesOn terminators))
    (pos : Nat) :
    ∃ resume, scanValue terminators .lead pos cs
      = .ok (closeUp (cs.takeWhile (goesOn terminators)), resume) := by
  have hbare : ∀ c ∈ cs.takeWhile (goesOn terminators), isBare terminators c = true := by
    intro c hc
    have hne : c ≠ '"' := fun heq => hquote (heq ▸ hc)
    have hgoes := List.mem_takeWhile_imp hc
    simp only [goesOn, hne, decide_false, Bool.false_or] at hgoes
    simp only [isBare, hne, ne_eq, not_false_eq_true, decide_true, Bool.true_and, hgoes]
  obtain ⟨mid, hpass, hmid⟩ := pass_closeUp hbare
  refine ⟨_, scanValue_eq_ok_iff.2
    ⟨_, cs.dropWhile (goesOn terminators), mid, List.takeWhile_append_dropWhile.symm, hpass, ?_,
      rfl⟩⟩
  intro t ht
  have hends := List.head?_dropWhile_not (goesOn terminators) cs
  rw [ht] at hends
  simp only [goesOn, Bool.or_eq_false_iff, decide_eq_false_iff_not, not_not] at hends
  obtain ⟨⟨hne, hbackslash⟩, hterm⟩ := hends
  refine act_of_not_isBare ?_ hne hmid
  simp [isBare, hbackslash, hterm]

end Call

/-! ### Scans -/

namespace Argument

open Call

/-- The text of the value that a scan from position `start` on reads: from behind the first `=`, or
from `start` on when there is none, up to what ends a value without quotes. -/
def valueText (terminators source : List Char) (start : Nat) : List Char :=
  (split source start).2.2.takeWhile (goesOn terminators)

theorem isNone_split (source : List Char) (start : Nat) :
    (split source start).1.isNone = true ↔ '=' ∉ source.drop start := by
  rw [split, ← cutFirst_eq_none_iff]
  cases cutFirst '=' (source.drop start) <;> simp

/-- **A value without quotes** is read without a fault, unless there is none because nothing but
blanks is left up to the next terminator and no `=` is left at all.  It is the text of the value
without outer blanks, and without the blanks that stand between the backslashes it may begin with
and behind them; so it is just the text without outer blanks exactly when there are no such blanks.
-/
theorem scan_unquoted (terminators source : List Char) (start : Nat)
    (hquote : '"' ∉ valueText terminators source start) :
    ∃ found, scan terminators source start = .ok found ∧
      (found = none ↔ '=' ∉ source.drop start ∧ Blank (valueText terminators source start)) ∧
      ∀ r, found = some r →
        r.argument.value.toList = closeUp (trim (valueText terminators source start)) ∧
        (r.argument.value.toList = trim (valueText terminators source start) ↔
          ∀ c ∈ (trim (valueText terminators source start)).takeWhile isOpening,
            isBlank c = false) := by
  obtain ⟨resume, hvalue⟩ := scanValue_unquoted hquote (split source start).2.1
  have hempty : trim (closeUp (valueText terminators source start)) = [] ↔
      Blank (valueText terminators source start) := by
    rw [trim_closeUp, closeUp_eq_nil_iff, ← trim_eq_nil_iff, trim_of_trimmed (trimmed_trim _),
      trim_eq_nil_iff]
  rw [← isNone_split, ← hempty, scan]
  rcases hsplit : split source start with ⟨name?, pos, value⟩
  simp only [hsplit] at hvalue
  simp only [valueText, hsplit, hvalue]
  split_ifs with hnone
  · exact ⟨none, rfl, by simpa using hnone, by simp⟩
  · refine ⟨_, rfl, by simpa using hnone, ?_⟩
    rintro r hr
    obtain rfl := Option.some.inj hr
    simp only [String.toList_ofList, trim_closeUp]
    exact ⟨trivial, closeUp_eq_self_iff⟩

/-- A path in the middle of a text is read as it stands. -/
theorem scan_unquoted_path :
    '"' ∉ valueText [')', ','] "x, dir = C:\\a b\\c , y".toList 2 ∧
      scan [')', ','] "x, dir = C:\\a b\\c , y".toList 2
        = .ok (some ⟨⟨"dir", "C:\\a b\\c"⟩, 19⟩) ∧
      "C:\\a b\\c".toList
        = trim (valueText [')', ','] "x, dir = C:\\a b\\c , y".toList 2) := by
  have htext : valueText [')', ','] "x, dir = C:\\a b\\c , y".toList 2
      = " C:\\a b\\c ".toList := rfl
  have hquote : '"' ∉ valueText [')', ','] "x, dir = C:\\a b\\c , y".toList 2 := by
    rw [htext]
    simp
  have hread : scan [')', ','] "x, dir = C:\\a b\\c , y".toList 2
      = .ok (some ⟨⟨"dir", "C:\\a b\\c"⟩, 19⟩) := rfl
  have hopening : (trim " C:\\a b\\c ".toList).takeWhile isOpening = [] := rfl
  obtain ⟨found, hscan, -, hvalue⟩ := scan_unquoted _ _ _ hquote
  obtain rfl := Except.ok.inj (hscan.symm.trans hread)
  refine ⟨hquote, hread, (hvalue _ rfl).2.2 ?_⟩
  rw [htext, hopening]
  simp

/-- A text without quotes, terminators and `=`, that has no outer blanks.  Still it is not read as
it stands: the blank behind its backslash is lost. -/
theorem scan_lost_blank :
    (∀ c ∈ "\\ a".toList, c ≠ '=' ∧ c ≠ '"' ∧ c ∉ [')', ',']) ∧
      valueText [')', ','] "\\ a".toList 0 = "\\ a".toList ∧
      scan [')', ','] "\\ a".toList 0 = .ok (some ⟨⟨"", "\\a"⟩, 3⟩) ∧
      "\\a".toList ≠ trim "\\ a".toList := by
  refine ⟨by simp, rfl, rfl, by decide⟩

end Argument

end LibraryCalls
