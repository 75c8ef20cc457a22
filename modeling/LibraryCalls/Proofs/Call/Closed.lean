import LibraryCalls.Proofs.Call.Phases
import LibraryCalls.Proofs.Call.Written

/-!
# What stands behind a closing quote

A quote that closes a value leaves the machine in its last mode, in which the argument should end.
Blanks may still follow, and the machine also passes over backslashes, which it adds to the value,
and over quotes, which it drops.  Any other character is a fault.

A closed argument is given by its parts: the label with its equals sign, blanks, the value with its
quotes, and the text behind the last of these quotes.  What the machine does up to that quote is
settled by one run over the quoted value; from there on it is in its last mode, which it never
leaves, so that the rest of the argument is an induction over the text behind the quote alone.

It follows that a backslash behind a quote ends up in the value while a second quote vanishes,
neither of which a reader of the grammar would expect.

* `ClosedArgument`: an argument whose value is closed by a quote, and the text behind that quote;
* `MayFollow`: the characters that the machine passes over behind a closing quote;
* `scanValue_fault_behind_quote`: the first other character is the fault;
* `scan_behind_quote`: what a scan gives for each text behind a closing quote;
* `scan_backslash_behind_quote`: a character that is no blank, and no fault.
-/

namespace LibraryCalls.Call

open Text Argument

variable {terminators : List Char}

/-! ### Arguments that are closed by a quote -/

/-- An argument whose value stands between quotes, and the text behind it. -/
structure ClosedArgument where
  /-- What stands before the `=` of a named argument. -/
  name : Option (List Char)
  before : Blanks
  chars : List QuotedChar
  /-- What stands between the closing quote and the end of the argument. -/
  behind : List Char
  /-- The terminator that ends the argument and the text behind it, or nothing. -/
  rest : List Char

namespace ClosedArgument

def label (w : ClosedArgument) : List Char :=
  match w.name with
  | none => []
  | some name => name ++ ['=']

/-- The value with its quotes and the blanks before them. -/
def quoted (w : ClosedArgument) : List Char :=
  w.before.1 ++ ('"' :: w.chars.flatMap QuotedChar.text ++ ['"'])

def text (w : ClosedArgument) : List Char :=
  w.label ++ (w.quoted ++ (w.behind ++ w.rest))

/-- The parts of a closed argument are what they are meant to be: only the label holds an `=` that
could end a name, and `behind` reaches up to the first character that ends the argument.  Quotes and
backslashes end no argument, even if they are among the terminators. -/
structure Fits (terminators : List Char) (w : ClosedArgument) : Prop where
  no_equals : '=' ∉ w.name.getD w.text
  behind : ∀ c ∈ w.behind, c ∈ terminators → c = '"' ∨ c = '\\'
  ends : ∀ t ∈ w.rest.head?, t ∈ terminators ∧ t ≠ '"' ∧ t ≠ '\\'

end ClosedArgument

/-- The machine passes over this character behind a closing quote. -/
def MayFollow (c : Char) : Prop := isBlank c = true ∨ c = '"' ∨ c = '\\'

instance (c : Char) : Decidable (MayFollow c) :=
  inferInstanceAs (Decidable (_ ∨ _))

/-! ### The machine behind a closing quote -/

theorem not_mem_of_isBlank (hT : ∀ t ∈ terminators, isBlank t = false) {c : Char}
    (hc : isBlank c = true) : c ∉ terminators := by
  intro hm
  rw [hT c hm] at hc
  exact Bool.noConfusion hc

/-- The machine passes over a value between quotes and keeps what it stands for. -/
theorem ClosedArgument.pass_quoted (hT : ∀ t ∈ terminators, isBlank t = false)
    (w : ClosedArgument) :
    Mode.lead.pass terminators w.quoted = some (w.chars.map QuotedChar.char, .tail) :=
  pass_append
    (pass_blank_of_not_mem (.inl rfl) w.before.2 fun c hc =>
      not_mem_of_isBlank hT (w.before.2 c hc))
    (pass_quotes w.chars)

/-- What the machine passes over behind a closing quote, it drops, except for backslashes. -/
theorem pass_mayFollow (hT : ∀ t ∈ terminators, isBlank t = false) {cs : List Char}
    (h : ∀ c ∈ cs, MayFollow c) :
    Mode.tail.pass terminators cs = some (backslashes cs, .tail) := by
  have hall : cs.takeWhile (isTail terminators) = cs := by
    refine List.takeWhile_eq_self_iff.2 fun c hc => ?_
    simp only [isTail, Bool.or_eq_true, Bool.and_eq_true, decide_eq_true_eq]
    rcases h c hc with hblank | hquote | hbackslash
    · exact .inr ⟨hblank, not_mem_of_isBlank hT hblank⟩
    · exact .inl (.inr hquote)
    · exact .inl (.inl hbackslash)
  have hpass := pass_tail terminators cs
  rwa [hall] at hpass

theorem act_tail_reject {c : Char} (h : ¬ MayFollow c) (hc : c ∉ terminators) :
    Mode.tail.act terminators c = .reject := by
  rw [MayFollow, not_or, not_or, Bool.not_eq_true] at h
  obtain ⟨hblank, hquote, hbackslash⟩ := h
  simp [Mode.act, hblank, hquote, hbackslash, hc]

theorem act_tail_stop {t : Char} (h : t ∈ terminators ∧ t ≠ '"' ∧ t ≠ '\\') :
    Mode.tail.act terminators t = .stop := by
  obtain ⟨hterm, hquote, hbackslash⟩ := h
  simp [Mode.act, hquote, hbackslash, hterm]

/-- **The fault.**  The first character behind a closing quote that the machine does not pass over
is the culprit, unless it ends the argument. -/
theorem scanValue_fault_behind_quote (hT : ∀ t ∈ terminators, isBlank t = false)
    (w : ClosedArgument) (pos : Nat) (left : List Char) {allowed : List Char} {c : Char}
    (hallowed : ∀ d ∈ allowed, MayFollow d) (hc : ¬ MayFollow c) (hterm : c ∉ terminators) :
    scanValue terminators .lead pos (w.quoted ++ (allowed ++ c :: left))
      = .error ⟨c, pos + (w.quoted ++ allowed).length⟩ := by
  rw [scanValue_append (w.pass_quoted hT), scanValue_append (pass_mayFollow hT hallowed), scanValue]
  simp only [act_tail_reject hc hterm, Except.map, List.length_append, Nat.add_assoc]

/-- Without such a character the value is read to the end of the argument. -/
theorem scanValue_behind_quote (hT : ∀ t ∈ terminators, isBlank t = false) (w : ClosedArgument)
    (hw : w.Fits terminators) (pos : Nat) (hbehind : ∀ c ∈ w.behind, MayFollow c) :
    scanValue terminators .lead pos (w.quoted ++ (w.behind ++ w.rest))
      = .ok (w.chars.map QuotedChar.char ++ backslashes w.behind,
          pos + (w.quoted ++ w.behind).length + (w.rest.take 1).length) := by
  refine scanValue_eq_ok_iff.2 ⟨w.quoted ++ w.behind, w.rest, .tail, ?_, ?_, ?_, rfl⟩
  · exact (List.append_assoc _ _ _).symm
  · exact pass_append (w.pass_quoted hT) (pass_mayFollow hT hbehind)
  · exact fun t ht => act_tail_stop (hw.ends t ht)

/-! ### The scan of a closed argument -/

theorem split_closed {w : ClosedArgument} (hw : w.Fits terminators) :
    split w.text 0 = (w.name.map trim, w.label.length, w.quoted ++ (w.behind ++ w.rest)) := by
  have hno := hw.no_equals
  cases hname : w.name with
  | none =>
    rw [hname, Option.getD_none, ClosedArgument.text, ClosedArgument.label, hname] at hno
    rw [ClosedArgument.text, ClosedArgument.label, hname]
    exact split_of_not_mem hno
  | some name =>
    rw [hname, Option.getD_some] at hno
    have htext : w.text = name ++ '=' :: (w.quoted ++ (w.behind ++ w.rest)) := by
      rw [ClosedArgument.text, ClosedArgument.label, hname, List.append_assoc]
      rfl
    have hlength : w.label.length = name.length + 1 := by
      rw [ClosedArgument.label, hname, List.length_append]
      rfl
    rw [htext, hlength]
    exact split_of_equals hno _

/-- What a closed argument is read as: a positional one counts only with a value that is not
empty. -/
def ClosedArgument.read? (w : ClosedArgument) : Option Argument :=
  let value := trim (w.chars.map QuotedChar.char ++ backslashes w.behind)
  if w.name = none ∧ value = [] then none
  else some ⟨String.ofList ((w.name.map trim).getD []), String.ofList value⟩

/-- **What a scan makes of the text behind a closing quote.**  If the machine passes over all of it,
up to the terminator that ends the argument or the end of the text, there is no fault, and its
backslashes stand behind the value.  Otherwise the first character that it does not pass over is the
fault. -/
theorem scan_behind_quote (hT : ∀ t ∈ terminators, isBlank t = false) (w : ClosedArgument)
    (hw : w.Fits terminators) (source : List Char) (start : Nat) (h : source.drop start = w.text) :
    (∀ allowed c left, w.behind = allowed ++ c :: left → (∀ d ∈ allowed, MayFollow d) →
      ¬ MayFollow c →
      scan terminators source start = .error
        ⟨c, start + (w.label ++ w.quoted ++ allowed).length, String.ofList source⟩) ∧
    ((∀ c ∈ w.behind, MayFollow c) →
      scan terminators source start = .ok (w.read?.map fun a =>
        ⟨a, start + (w.label ++ w.quoted ++ w.behind).length + (w.rest.take 1).length⟩)) := by
  rw [scan_shift, h]
  constructor
  · intro allowed c left hbehind hallowed hc
    have hterm : c ∉ terminators := by
      intro hm
      have hmem : c ∈ w.behind := by
        rw [hbehind]
        exact List.mem_append_right allowed List.mem_cons_self
      exact hc (.inr (hw.behind c hmem hm))
    have hv := scanValue_fault_behind_quote hT w w.label.length (left ++ w.rest) hallowed hc hterm
    rw [← List.cons_append, ← List.append_assoc allowed, ← hbehind] at hv
    rw [scan, split_closed hw]
    simp only [hv, List.length_append, Except.error.injEq, SyntaxError.mk.injEq, true_and, and_true]
    omega
  · intro hbehind
    have hv := scanValue_behind_quote hT w hw w.label.length hbehind
    rw [scan, split_closed hw]
    simp only [hv, ClosedArgument.read?, Option.isNone_iff_eq_none, Option.map_eq_none_iff]
    split_ifs with hempty
    · rfl
    · simp only [Option.map_some, List.length_append, Except.ok.injEq, Option.some.injEq,
        Scanned.mk.injEq, true_and]
      omega

/-- A named argument in the middle of a text, with a backslash, a quote and a letter behind its
closed value.  The letter is the fault; without it the backslash ends up in the value. -/
theorem scan_behind_quote_letter :
    let w (behind : List Char) : ClosedArgument :=
      ⟨some " a ".toList, ⟨[' '], by decide⟩, [.plain 'v' (by decide) (by decide), .escaped '"'],
        behind, ", b".toList⟩
    (w [' ', '\\', '"', ' ', 'y']).Fits [')', ','] ∧ (w [' ', '\\', '"', ' ']).Fits [')', ','] ∧
      scan [')', ','] "x, a = \"v\\\"\" \\\" y, b".toList 2
        = .error ⟨'y', 16, "x, a = \"v\\\"\" \\\" y, b"⟩ ∧
      scan [')', ','] "x, a = \"v\\\"\" \\\" , b".toList 2
        = .ok (some ⟨⟨"a", "v\"\\"⟩, 17⟩) := by
  intro w
  have hT : ∀ t ∈ [')', ','], isBlank t = false := Brackets.round_proper.terminating.not_blank
  have hfault : (w [' ', '\\', '"', ' ', 'y']).Fits [')', ','] :=
    ⟨by decide, by simp [w], by simp [w]⟩
  have hread : (w [' ', '\\', '"', ' ']).Fits [')', ','] :=
    ⟨by decide, by simp [w], by simp [w]⟩
  have hpassed : ∀ c ∈ [' ', '\\', '"', ' '], MayFollow c := by simp [MayFollow, isBlank]
  refine ⟨hfault, hread, ?_, ?_⟩
  · exact (scan_behind_quote hT _ hfault "x, a = \"v\\\"\" \\\" y, b".toList 2 rfl).1
      [' ', '\\', '"', ' '] 'y' [] rfl hpassed (by decide)
  · exact (scan_behind_quote hT _ hread "x, a = \"v\\\"\" \\\" , b".toList 2 rfl).2 hpassed

/-- A backslash behind a closing quote is no blank, and still no fault: it is read as a part of the
value.  A second quote is lost. -/
theorem scan_backslash_behind_quote :
    let w (behind : List Char) : ClosedArgument :=
      ⟨none, ⟨[], by decide⟩, [.plain 'a' (by decide) (by decide)], behind, []⟩
    (w ['\\']).Fits [')', ','] ∧ isBlank '\\' = false ∧ (w ['\\']).text = "\"a\"\\".toList ∧
      scan [')', ','] "\"a\"\\".toList 0 = .ok (some ⟨⟨"", "a\\"⟩, 4⟩) ∧
      (w ['"']).Fits [')', ','] ∧ isBlank '"' = false ∧ (w ['"']).text = "\"a\"\"".toList ∧
      scan [')', ','] "\"a\"\"".toList 0 = .ok (some ⟨⟨"", "a"⟩, 4⟩) := by
  intro w
  refine ⟨⟨by decide, by simp [w], by simp [w]⟩, by decide, by decide, by rfl,
    ⟨by decide, by simp [w], by simp [w]⟩, by decide, by decide, by rfl⟩

end LibraryCalls.Call
