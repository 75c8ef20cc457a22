import LibraryCalls.Proofs.Call.Sequence

/-!
# An argument in phases

The machine that reads a value has five modes and looks at one character at a time.  A value can
also be read in three phases, each of which takes as much of the text as belongs to it: what stands
before the value, the value itself, and what stands behind a quote that has ended it.

The phases are defined by recursion on the text and know nothing of modes, of positions or of the
machine's table.  Each phase says what it copies, what ends it, and which phase comes next; a
character that is out of place is reported with the text behind it, from which its position follows.

Agreement between the two is stated for one mode and one phase at a time, and proved from the last
phase to the first, because a phase refers to those behind it.  It holds for all terminators, blanks
and quotes among them, and so without any assumption on the brackets.

* `afterQuote`, `afterLead`, `inPhases`: the three phases, the last one first;
* `quotedBody`: a value between quotes;
* `Argument.readInPhases`: one argument, its name and its value read in phases;
* `Argument.scan_eq_readInPhases`: the machine reads the same argument.
-/

namespace LibraryCalls

open Text

namespace Call

/-! ### The phases -/

/-- What phases make of a text: the characters that they copy and the text that is left behind the
terminator, or else a character that is out of place and the text behind it. -/
abbrev Phased := Except (Char × List Char) (List Char × List Char)

/-- A phase that copies some characters before the next one. -/
def Phased.after (copied : List Char) (next : Phased) : Phased :=
  next.map fun r => (copied ++ r.1, r.2)

/-- What may stand before a value: backslashes, and blanks that end no argument. -/
def isLead (terminators : List Char) (c : Char) : Bool :=
  c = '\\' || (isBlank c && c ∉ terminators)

/-- What a value without quotes is made of: anything but quotes and terminators.  A backslash is no
terminator. -/
def isBare (terminators : List Char) (c : Char) : Bool :=
  c ≠ '"' && (c = '\\' || c ∉ terminators)

/-- What may stand behind a quote that has ended a value: backslashes, quotes, and blanks that end
no argument. -/
def isTail (terminators : List Char) (c : Char) : Bool :=
  c = '\\' || c = '"' || (isBlank c && c ∉ terminators)

def backslashes (cs : List Char) : List Char :=
  cs.filter (· = '\\')

/-- A value between quotes, from behind the first one on, and the text behind its last one, if it
has one.  A backslash stands for the character behind it, and for nothing at the end. -/
def quotedBody : List Char → List Char × Option (List Char)
  | [] => ([], none)
  | '"' :: rest => ([], some rest)
  | ['\\'] => ([], none)
  | '\\' :: c :: rest => (c :: (quotedBody rest).1, (quotedBody rest).2)
  | c :: rest => (c :: (quotedBody rest).1, (quotedBody rest).2)

/-- The third phase, behind a quote that has ended the value: backslashes are copied, and only a
terminator may follow. -/
def afterQuote (terminators cs : List Char) : Phased :=
  let copied := backslashes (cs.takeWhile (isTail terminators))
  match cs.dropWhile (isTail terminators) with
  | [] => .ok (copied, [])
  | t :: rest => if t ∈ terminators then .ok (copied, rest) else .error (t, rest)

/-- The end of a value without quotes: a quote, with the third phase behind it, or a terminator. -/
def afterBare (terminators : List Char) : List Char → Phased
  | '"' :: rest => afterQuote terminators rest
  | left => .ok ([], left.tail)

def afterLead (terminators cs : List Char) : Phased :=
  match cs with
  | '"' :: inside =>
    match quotedBody inside with
    | (copied, some rest) => (afterQuote terminators rest).after copied
    | (copied, none) => .ok (copied, [])
  | cs => (afterBare terminators (cs.dropWhile (isBare terminators))).after
      (cs.takeWhile (isBare terminators))

/-- All three phases: the first one copies the backslashes before the value. -/
def inPhases (terminators cs : List Char) : Phased :=
  (afterLead terminators (cs.dropWhile (isLead terminators))).after
    (backslashes (cs.takeWhile (isLead terminators)))

end Call

open Call

/-- One argument of `source` from position `start` on, or `none` when there is none left.  Its name
is what stands before the first equals sign, and its value is read in phases behind it; without an
equals sign the value is read from `start` on. -/
def Argument.readInPhases (terminators source : List Char) (start : Nat) :
    Except SyntaxError (Option Scanned) :=
  let here := source.drop start
  let name := trim (here.takeWhile (· ≠ '='))
  let behind := (here.dropWhile (· ≠ '=')).tail
  let position (left : List Char) := source.length - left.length
  match inPhases terminators (if '=' ∈ here then behind else here) with
  | .error (c, left) => .error ⟨c, position (c :: left), String.ofList source⟩
  | .ok (copied, left) =>
    if '=' ∈ here then
      .ok (some ⟨⟨String.ofList name, String.ofList (trim copied)⟩, position left⟩)
    else if trim copied = [] then .ok none
    else .ok (some ⟨⟨"", String.ofList (trim copied)⟩, position left⟩)

namespace Call

variable {terminators cs : List Char}

/-! ### The machine in a phase -/

/-- A text at which the machine stays in its mode and keeps some of the characters. -/
theorem pass_filter {mode : Mode} {kept : Char → Bool}
    (h : ∀ c ∈ cs, mode.act terminators c = if kept c then .keep mode else .skip mode) :
    mode.pass terminators cs = some (cs.filter kept, mode) := by
  induction cs with
  | nil => rfl
  | cons c cs ih =>
    have hact := h c List.mem_cons_self
    have hrest := ih fun d hd => h d (List.mem_cons_of_mem c hd)
    by_cases hc : kept c = true
    · rw [if_pos hc] at hact
      rw [List.filter_cons_of_pos hc]
      exact pass_keep hact hrest
    · rw [if_neg hc] at hact
      rw [List.filter_cons_of_neg hc, pass_skip hact]
      exact hrest

/-- Blanks that end no argument are dropped before a value and behind its last quote. -/
theorem act_of_isBlank {mode : Mode} (hmode : mode = .lead ∨ mode = .tail) {c : Char}
    (hblank : isBlank c = true) (hterm : c ∉ terminators) :
    mode.act terminators c = if c = '\\' then .keep mode else .skip mode := by
  have hbackslash : c ≠ '\\' := ne_of_isBlank hblank (by decide)
  have hquote : c ≠ '"' := ne_of_isBlank hblank (by decide)
  rcases hmode with rfl | rfl <;> simp [Mode.act, hbackslash, hquote, hterm, hblank]

theorem pass_lead (terminators cs : List Char) :
    Mode.lead.pass terminators (cs.takeWhile (isLead terminators))
      = some (backslashes (cs.takeWhile (isLead terminators)), .lead) := by
  apply pass_filter
  intro c hc
  have hlead := List.mem_takeWhile_imp hc
  simp only [isLead, Bool.or_eq_true, Bool.and_eq_true, decide_eq_true_eq] at hlead ⊢
  rcases hlead with rfl | ⟨hblank, hterm⟩
  · rfl
  · exact act_of_isBlank (.inl rfl) hblank hterm

theorem pass_tail (terminators cs : List Char) :
    Mode.tail.pass terminators (cs.takeWhile (isTail terminators))
      = some (backslashes (cs.takeWhile (isTail terminators)), .tail) := by
  apply pass_filter
  intro c hc
  have htail := List.mem_takeWhile_imp hc
  simp only [isTail, Bool.or_eq_true, Bool.and_eq_true, decide_eq_true_eq] at htail ⊢
  rcases htail with (rfl | rfl) | ⟨hblank, hterm⟩
  · rfl
  · rfl
  · exact act_of_isBlank (.inr rfl) hblank hterm

theorem act_lead_of_isBare {c : Char} (hbare : isBare terminators c = true)
    (hlead : isLead terminators c = false) : Mode.lead.act terminators c = .keep .bare := by
  simp only [isBare, Bool.and_eq_true, Bool.or_eq_true, decide_eq_true_eq] at hbare
  simp only [isLead, Bool.or_eq_false_iff, Bool.and_eq_false_iff, decide_eq_false_iff_not,
    not_not] at hlead
  obtain ⟨hquote, hterm⟩ := hbare
  obtain ⟨hbackslash, hends⟩ := hlead
  have hterm : c ∉ terminators := hterm.resolve_left hbackslash
  have hblank : isBlank c = false := by simpa using hends.resolve_right hterm
  simp [Mode.act, hbackslash, hquote, hterm, hblank]

theorem pass_isBare (cs : List Char) :
    Mode.bare.pass terminators (cs.takeWhile (isBare terminators))
      = some (cs.takeWhile (isBare terminators), .bare) := by
  apply pass_keep_all
  intro c hc
  have hbare := List.mem_takeWhile_imp hc
  simp only [isBare, Bool.and_eq_true, Bool.or_eq_true, decide_eq_true_eq] at hbare
  obtain ⟨hquote, rfl | hterm⟩ := hbare
  · rfl
  · by_cases hbackslash : c = '\\' <;> simp [Mode.act, hbackslash, hquote, hterm]

/-- Between quotes the machine copies what a quoted value stands for: up to the quote that ends it,
with the text behind that quote left, or up to the end. -/
def PassesBody (terminators cs : List Char) : List Char × Option (List Char) → Prop
  | (copied, some rest) =>
    ∃ p, cs = p ++ rest ∧ Mode.body.pass terminators p = some (copied, .tail)
  | (copied, none) => ∃ mid, Mode.body.pass terminators cs = some (copied, mid)

/-- One more character between quotes. -/
theorem PassesBody.cons {written : List Char} {c : Char}
    (hwritten : ∀ (p copied : List Char) (mid : Mode),
      Mode.body.pass terminators p = some (copied, mid) →
      Mode.body.pass terminators (written ++ p) = some (c :: copied, mid))
    {r : List Char × Option (List Char)} (h : PassesBody terminators cs r) :
    PassesBody terminators (written ++ cs) (c :: r.1, r.2) := by
  obtain ⟨copied, left⟩ := r
  cases left with
  | none =>
    obtain ⟨mid, hmid⟩ := h
    exact ⟨mid, hwritten cs copied mid hmid⟩
  | some rest =>
    obtain ⟨p, rfl, hp⟩ := h
    exact ⟨written ++ p, (List.append_assoc written p rest).symm, hwritten p copied .tail hp⟩

theorem passesBody_quotedBody (terminators cs : List Char) :
    PassesBody terminators cs (quotedBody cs) := by
  fun_induction quotedBody cs with
  | case1 => exact ⟨.body, rfl⟩
  | case2 rest => exact ⟨['"'], rfl, rfl⟩
  | case3 => exact ⟨.escape, rfl⟩
  | case4 c rest ih =>
    have hwritten : ∀ (p copied : List Char) (mid : Mode),
        Mode.body.pass terminators p = some (copied, mid) →
        Mode.body.pass terminators (['\\', c] ++ p) = some (c :: copied, mid) := by
      intro p copied mid hp
      have hescape : Mode.escape.pass terminators (c :: p) = some (c :: copied, mid) :=
        pass_keep rfl hp
      exact (pass_skip rfl (c :: p)).trans hescape
    exact ih.cons hwritten
  | case5 c rest hquote hlone hescape ih =>
    have hbackslash : c ≠ '\\' := by
      rintro rfl
      cases rest with
      | nil => exact hlone rfl rfl
      | cons d rest => exact hescape d rest rfl rfl
    have hact : Mode.body.act terminators c = .keep .body := by
      rw [Mode.act, if_neg hbackslash, if_neg hquote]
    have hwritten : ∀ (p copied : List Char) (mid : Mode),
        Mode.body.pass terminators p = some (copied, mid) →
        Mode.body.pass terminators ([c] ++ p) = some (c :: copied, mid) :=
      fun p copied mid hp => pass_keep hact hp
    exact ih.cons hwritten

/-! ### The machine and the phases -/

/-- What phases make of a text as the machine tells it: with positions in a text that ends at
position `stop`. -/
def Phased.place (stop : Nat) : Phased → Except Culprit (List Char × Nat)
  | .ok (copied, left) => .ok (copied, stop - left.length)
  | .error (c, left) => .error ⟨c, stop - (left.length + 1)⟩

theorem Phased.place_after (stop : Nat) (copied : List Char) (next : Phased) :
    (next.after copied).place stop = (next.place stop).map fun r => (copied ++ r.1, r.2) := by
  cases next <;> rfl

theorem Phased.after_nil (next : Phased) : next.after [] = next := by
  cases next <;> rfl

theorem afterBare_of_ne {t : Char} (h : t ≠ '"') (rest : List Char) :
    afterBare terminators (t :: rest) = .ok ([], rest) := by
  rw [afterBare.eq_def]
  split
  · next heq => exact absurd (List.cons.inj heq).1 h
  · rfl

/-- From a mode on the machine makes of a text what phases make of it. -/
def Mode.Agrees (terminators : List Char) (mode : Mode) (cs : List Char) (phased : Phased) : Prop :=
  ∀ pos, scanValue terminators mode pos cs = phased.place (pos + cs.length)

variable {mode mid : Mode} {rest kept : List Char} {next : Phased} {t : Char}

theorem agrees_nil (terminators : List Char) (mode : Mode) :
    mode.Agrees terminators [] (.ok ([], [])) := by
  intro pos
  rfl

theorem agrees_stop (h : mode.act terminators t = .stop) (rest : List Char) :
    mode.Agrees terminators (t :: rest) (.ok ([], rest)) := by
  intro pos
  have hpos : pos + (rest.length + 1) - rest.length = pos + 1 := by omega
  simp only [scanValue, h, Phased.place, List.length_cons, hpos]

theorem agrees_reject (h : mode.act terminators t = .reject) (rest : List Char) :
    mode.Agrees terminators (t :: rest) (.error (t, rest)) := by
  intro pos
  have hpos : pos + (rest.length + 1) - (rest.length + 1) = pos := by omega
  simp only [scanValue, h, Phased.place, List.length_cons, hpos]

/-- **A phase and the phases behind it.** -/
theorem Mode.Agrees.after {p : List Char} (hp : mode.pass terminators p = some (kept, mid))
    (hrest : mid.Agrees terminators rest next) :
    mode.Agrees terminators (p ++ rest) (next.after kept) := by
  intro pos
  rw [scanValue_append hp, hrest, Phased.place_after, List.length_append, Nat.add_assoc]

theorem agrees_of_pass (h : mode.pass terminators cs = some (kept, mid)) :
    mode.Agrees terminators cs (.ok (kept, [])) := by
  have hagrees := (agrees_nil terminators mid).after h
  rw [List.append_nil] at hagrees
  have hafter : Phased.after kept (.ok ([], [])) = .ok (kept, []) := by
    simp [Phased.after, Except.map]
  exact hafter ▸ hagrees

/-- **The third phase.** -/
theorem agrees_afterQuote (terminators cs : List Char) :
    Mode.tail.Agrees terminators cs (afterQuote terminators cs) := by
  have hpass := pass_tail terminators cs
  rw [afterQuote]
  cases hleft : cs.dropWhile (isTail terminators) with
  | nil =>
    have hall : cs.takeWhile (isTail terminators) = cs := by
      have happend := List.takeWhile_append_dropWhile (p := isTail terminators) (l := cs)
      rwa [hleft, List.append_nil] at happend
    rw [hall] at hpass ⊢
    exact agrees_of_pass hpass
  | cons t rest =>
    have hcs : cs = cs.takeWhile (isTail terminators) ++ t :: rest := by
      rw [← hleft, List.takeWhile_append_dropWhile]
    have ht : isTail terminators t = false := by
      have hhead := List.head?_dropWhile_not (isTail terminators) cs
      rw [hleft] at hhead
      exact hhead
    simp only [isTail, Bool.or_eq_false_iff, Bool.and_eq_false_iff, decide_eq_false_iff_not,
      not_not] at ht
    obtain ⟨⟨hbackslash, hquote⟩, hends⟩ := ht
    by_cases hterm : t ∈ terminators
    · have hact : Mode.tail.act terminators t = .stop := by
        simp [Mode.act, hbackslash, hquote, hterm]
      have hagrees := (agrees_stop hact rest).after hpass
      rw [← hcs] at hagrees
      simpa [Phased.after, Except.map, hterm] using hagrees
    · have hblank : isBlank t = false := hends.resolve_right hterm
      have hact : Mode.tail.act terminators t = .reject := by
        simp [Mode.act, hbackslash, hquote, hterm, hblank]
      have hagrees := (agrees_reject hact rest).after hpass
      rw [← hcs] at hagrees
      simpa [Phased.after, Except.map, hterm] using hagrees

theorem act_of_not_isBare (hbare : isBare terminators t = false) (hquote : t ≠ '"')
    (hmode : mode = .lead ∨ mode = .bare) : mode.act terminators t = .stop := by
  simp only [isBare, Bool.and_eq_false_iff, Bool.or_eq_false_iff, decide_eq_false_iff_not,
    not_not] at hbare
  obtain ⟨hbackslash, hterm⟩ := hbare.resolve_left hquote
  rcases hmode with rfl | rfl <;> simp [Mode.act, hbackslash, hquote, hterm]

/-- The end of a value without quotes. -/
theorem agrees_afterBare (cs : List Char) :
    Mode.bare.Agrees terminators (cs.dropWhile (isBare terminators))
      (afterBare terminators (cs.dropWhile (isBare terminators))) := by
  have hhead := List.head?_dropWhile_not (isBare terminators) cs
  cases hleft : cs.dropWhile (isBare terminators) with
  | nil => exact agrees_nil terminators .bare
  | cons t rest =>
    rw [hleft] at hhead
    by_cases hquote : t = '"'
    · subst hquote
      have hskip : Mode.bare.pass terminators ['"'] = some ([], .tail) := rfl
      have hagrees := (agrees_afterQuote terminators rest).after hskip
      rwa [Phased.after_nil] at hagrees
    · rw [afterBare_of_ne hquote]
      exact agrees_stop (act_of_not_isBare hhead hquote (.inr rfl)) rest

/-- **The second phase**, at a character that does not belong to the first one. -/
theorem agrees_afterLead (h : ∀ c ∈ cs.head?, isLead terminators c = false) :
    Mode.lead.Agrees terminators cs (afterLead terminators cs) := by
  rw [afterLead.eq_def]
  split
  · next inside =>
    have hbody := passesBody_quotedBody terminators inside
    cases hinside : quotedBody inside with
    | mk copied left =>
      rw [hinside] at hbody
      cases left with
      | none =>
        obtain ⟨mid, hmid⟩ := hbody
        exact agrees_of_pass ((pass_skip rfl inside).trans hmid)
      | some rest =>
        obtain ⟨p, rfl, hp⟩ := hbody
        have hquoted : Mode.lead.pass terminators ('"' :: p) = some (copied, .tail) :=
          (pass_skip rfl p).trans hp
        exact (agrees_afterQuote terminators rest).after hquoted
  · next hquote =>
    cases cs with
    | nil => exact agrees_nil terminators .lead
    | cons c rest =>
      have hc : c ≠ '"' := by rintro rfl; exact hquote rest rfl
      have hlead : isLead terminators c = false := h c rfl
      by_cases hbare : isBare terminators c = true
      · rw [List.dropWhile_cons_of_pos hbare, List.takeWhile_cons_of_pos hbare]
        have hpass : Mode.lead.pass terminators (c :: rest.takeWhile (isBare terminators))
            = some (c :: rest.takeWhile (isBare terminators), .bare) :=
          pass_keep (act_lead_of_isBare hbare hlead) (pass_isBare rest)
        have hagrees := (agrees_afterBare rest).after hpass
        rwa [List.cons_append, List.takeWhile_append_dropWhile] at hagrees
      · rw [List.dropWhile_cons_of_neg hbare, List.takeWhile_cons_of_neg hbare]
        have hact := act_of_not_isBare (eq_false_of_ne_true hbare) hc (.inl rfl)
        rw [Phased.after_nil, afterBare_of_ne hc]
        exact agrees_stop hact rest

/-- **All three phases.** -/
theorem agrees_inPhases (cs : List Char) :
    Mode.lead.Agrees terminators cs (inPhases terminators cs) := by
  have hhead : ∀ c ∈ (cs.dropWhile (isLead terminators)).head?, isLead terminators c = false := by
    intro c hc
    have hnot := List.head?_dropWhile_not (isLead terminators) cs
    rwa [hc] at hnot
  have hagrees := (agrees_afterLead hhead).after (pass_lead terminators cs)
  rwa [List.takeWhile_append_dropWhile] at hagrees

end Call

open Call

/-- **The machine reads an argument as the phases do.** -/
theorem Argument.scan_eq_readInPhases (terminators source : List Char) (start : Nat) :
    Argument.scan terminators source start
      = Argument.readInPhases terminators source start := by
  rw [scan, readInPhases, split]
  rcases equals_cases (source.drop start) with hnone | ⟨before, after, hdrop, hbefore⟩
  · rw [cutFirst_eq_none_iff.2 hnone]
    simp only [if_neg hnone]
    by_cases hstart : start ≤ source.length
    · have hend : start + (source.drop start).length = source.length := by
        rw [List.length_drop]
        omega
      rw [agrees_inPhases, hend]
      cases inPhases terminators (source.drop start) with
      | error e => rfl
      | ok r => simp [Phased.place]
    · -- behind the end of the text there is nothing to read
      rw [List.drop_eq_nil_of_le (Nat.le_of_not_le hstart)]
      rfl
  · have hmem : '=' ∈ source.drop start := by simp [hdrop]
    have hend : start + before.length + 1 + after.length = source.length := by
      have hlength := congrArg List.length hdrop
      simp only [List.length_drop, List.length_append, List.length_cons] at hlength
      omega
    have hpass : ∀ c ∈ before, decide (c ≠ '=') = true :=
      fun c hc => decide_eq_true fun heq => hbefore (heq ▸ hc)
    rw [hdrop] at hmem ⊢
    simp only [if_pos hmem, cutFirst_eq_some_iff.2 ⟨rfl, hbefore⟩,
      List.takeWhile_append_of_pos hpass, List.dropWhile_append_of_pos hpass]
    rw [agrees_inPhases, hend]
    have hbehind : (('=' :: after).dropWhile fun c => decide (c ≠ '=')).tail = after := rfl
    have hname : ('=' :: after).takeWhile (fun c => decide (c ≠ '=')) = [] := rfl
    rw [hbehind, hname, List.append_nil]
    cases inPhases terminators after with
    | error e => rfl
    | ok r => simp [Phased.place]

end LibraryCalls
