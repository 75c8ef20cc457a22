import LibraryCalls.Proofs.Call.Sequence

/-!
# Written values

A value may be written in many ways: without quotes, or between quotes with any of its characters
behind a backslash, and with blanks on both sides.  A `WrittenValue` is one of these ways.

A written value carries the conditions that make it one: a bare value is trimmed, holds neither a
quote nor a terminator, and does not begin with a backslash; a character between quotes stands
behind a backslash unless it needs none.  What is meant is read off from the pieces.

Blanks around a written value belong to it as far as scanning is concerned, and since they are lost
between quotes as well as outside of them, the value that is meant is a trimmed one.

* `QuotedChar`, `WrittenValue`, `PaddedValue`: how a value is written;
* `PaddedValue.pass`: the machine passes over a written value and keeps its characters;
* `scan_name_padded`, `scan_padded`: one scan reads the written value and leaves what follows it;
* `scanAll_cons`: the arguments of a text are the one just read and those of what follows.
-/

namespace LibraryCalls.Call

open Text

abbrev Blanks := { ws : List Char // Blank ws }

/-- A character between quotes, as it is written. -/
inductive QuotedChar where
  | plain (c : Char) (ne_quote : c ≠ '"') (ne_backslash : c ≠ '\\')
  | escaped (c : Char)

def QuotedChar.char : QuotedChar → Char
  | .plain c _ _ => c
  | .escaped c => c

def QuotedChar.text : QuotedChar → List Char
  | .plain c _ _ => [c]
  | .escaped c => ['\\', c]

/-- A value as it is written, without the blanks around it. -/
inductive WrittenValue (terminators : List Char) where
  /-- Without quotes.  The empty text is one such value. -/
  | bare (cs : List Char) (trimmed : Trimmed cs) (free : ∀ c ∈ cs, c ≠ '"' ∧ c ∉ terminators)
      (head : ∀ c ∈ cs.head?, c ≠ '\\')
  /-- Between quotes. -/
  | quoted (chars : List QuotedChar)

variable {terminators : List Char}

def WrittenValue.text : WrittenValue terminators → List Char
  | .bare cs _ _ _ => cs
  | .quoted chars => '"' :: chars.flatMap QuotedChar.text ++ ['"']

/-- The value that is meant.  Outer blanks are lost even between quotes. -/
def WrittenValue.value : WrittenValue terminators → List Char
  | .bare cs _ _ _ => cs
  | .quoted chars => trim (chars.map QuotedChar.char)

/-- A written value with the blanks on its two sides. -/
structure PaddedValue (terminators : List Char) where
  before : Blanks
  written : WrittenValue terminators
  after : Blanks

def PaddedValue.text (v : PaddedValue terminators) : List Char :=
  v.before.1 ++ v.written.text ++ v.after.1

def PaddedValue.value (v : PaddedValue terminators) : List Char := v.written.value

/-! ### Passing over a written value -/

/-- Between quotes each character is kept, whichever way it is written. -/
theorem pass_quoted (chars : List QuotedChar) :
    Mode.body.pass terminators (chars.flatMap QuotedChar.text)
      = some (chars.map QuotedChar.char, .body) := by
  induction chars with
  | nil => rfl
  | cons q chars ih =>
    rw [List.flatMap_cons, List.map_cons]
    cases q with
    | plain c hq hb =>
      have hact : Mode.body.act terminators c = .keep .body := by simp [Mode.act, hq, hb]
      exact pass_keep hact ih
    | escaped c =>
      have hslash : Mode.body.act terminators '\\' = .skip .escape := by simp [Mode.act]
      have hact : Mode.escape.act terminators c = .keep .body := rfl
      rw [QuotedChar.text, List.cons_append, pass_skip hslash]
      exact pass_keep hact ih

/-- The quote, the characters and the closing quote of a quoted value. -/
theorem pass_quotes (chars : List QuotedChar) :
    Mode.lead.pass terminators ('"' :: chars.flatMap QuotedChar.text ++ ['"'])
      = some (chars.map QuotedChar.char, .tail) := by
  have hopen : Mode.lead.act terminators '"' = .skip .body := by simp [Mode.act]
  have hclose : Mode.body.act terminators '"' = .skip .tail := by simp [Mode.act]
  have hlast : Mode.body.pass terminators ['"'] = some ([], .tail) := pass_skip hclose []
  rw [List.cons_append, pass_skip hopen, pass_append (pass_quoted chars) hlast, List.append_nil]

/-- A value without quotes begins with a character that opens it. -/
theorem pass_bare_value {c : Char} {cs : List Char} (hblank : isBlank c = false) (hb : c ≠ '\\')
    (h : ∀ d ∈ c :: cs, d ≠ '"' ∧ d ∉ terminators) :
    Mode.lead.pass terminators (c :: cs) = some (c :: cs, .bare) := by
  obtain ⟨hq, ht⟩ := h c List.mem_cons_self
  have hact : Mode.lead.act terminators c = .keep .bare := by
    simp [Mode.act, hq, hb, ht, hblank]
  exact pass_keep hact (pass_bare fun d hd => h d (List.mem_cons_of_mem c hd))

/-- **The machine passes over a written value.**  It ends outside quotes, and what it has kept is
the value up to blanks at the two ends. -/
theorem PaddedValue.pass (hT : Terminating terminators) (v : PaddedValue terminators) :
    ∃ kept mode, Mode.lead.pass terminators v.text = some (kept, mode) ∧ mode.quoted = false ∧
      trim kept = v.value := by
  obtain ⟨⟨left, hleft⟩, written, ⟨right, hright⟩⟩ := v
  have hlead : Mode.lead.pass terminators left = some ([], .lead) :=
    pass_blank hT (.inl rfl) hleft
  cases written with
  | quoted chars =>
    refine ⟨chars.map QuotedChar.char, .tail, ?_, rfl, rfl⟩
    have htail := pass_append (pass_append hlead (pass_quotes chars))
      (pass_blank hT (.inr rfl) hright)
    rw [List.append_nil] at htail
    exact htail
  | bare cs trimmed free head =>
    cases cs with
    | nil =>
      refine ⟨[], .lead, ?_, rfl, rfl⟩
      simpa [PaddedValue.text, WrittenValue.text] using
        pass_append hlead (pass_blank hT (.inl rfl) hright)
    | cons c cs =>
      -- blanks after the value are kept, and `trim` takes them off again
      refine ⟨c :: cs ++ right, .bare, ?_, rfl, ?_⟩
      · have hright' : Mode.bare.pass terminators right = some (right, .bare) := by
          apply pass_bare
          intro d hd
          have hd' : isBlank d = true := hright d hd
          exact ⟨ne_of_isBlank hd' (by decide), hT.blank_not_mem hd'⟩
        have hvalue := pass_bare_value (trimmed.1 c rfl) (head c rfl) free
        exact pass_append (pass_append hlead hvalue) hright'
      · rw [trim_append_blank hright, trim_of_trimmed trimmed]
        rfl

/-! ### Scanning a written value -/

/-- What may stand behind an argument: nothing, or a terminator. -/
def Ends (terminators rest : List Char) : Prop := ∀ t ∈ rest.head?, t ∈ terminators

theorem ends_nil : Ends terminators [] := by
  intro t ht
  simp at ht

theorem ends_cons {t : Char} (ht : t ∈ terminators) (rest : List Char) :
    Ends terminators (t :: rest) := by
  intro u hu
  obtain rfl : t = u := by simpa using hu
  exact ht

theorem PaddedValue.scanValue (hT : Terminating terminators) (v : PaddedValue terminators)
    {rest : List Char} (hrest : Ends terminators rest) (pos : Nat) :
    ∃ kept, Call.scanValue terminators .lead pos (v.text ++ rest)
        = .ok (kept, pos + v.text.length + (rest.take 1).length) ∧ trim kept = v.value := by
  obtain ⟨kept, mode, hpass, hmode, hkept⟩ := v.pass hT
  refine ⟨kept, ?_, hkept⟩
  exact scanValue_eq_ok_iff.2 ⟨v.text, rest, mode, rfl, hpass,
    fun t ht => act_terminator hT hmode (hrest t ht), rfl⟩

/-- A scan that begins before a name reads the name, the value and the terminator behind it. -/
theorem scan_name_padded (hT : Terminating terminators) {name : List Char} (hname : '=' ∉ name)
    (v : PaddedValue terminators) {rest : List Char} (hrest : Ends terminators rest) :
    Argument.scan terminators (name ++ '=' :: v.text ++ rest) 0
      = .ok (some ⟨⟨String.ofList (trim name), String.ofList v.value⟩,
          (name ++ '=' :: v.text).length + (rest.take 1).length⟩) := by
  obtain ⟨kept, hscan, hkept⟩ := v.scanValue hT hrest (name.length + 1)
  have h := Argument.scan_of_equals hname hscan
  rw [hkept] at h
  rw [List.append_assoc, List.cons_append, h]
  simp only [List.length_append, List.length_cons, Except.ok.injEq, Option.some.injEq,
    Scanned.mk.injEq, true_and]
  omega

/-- A scan of a text without `=` reads a positional value and the terminator behind it, or finds no
argument when the value is empty. -/
theorem scan_padded (hT : Terminating terminators) (v : PaddedValue terminators)
    {rest : List Char} (hrest : Ends terminators rest) (h : '=' ∉ v.text ++ rest) :
    Argument.scan terminators (v.text ++ rest) 0
      = .ok (if v.value = [] then none
          else some ⟨⟨"", String.ofList v.value⟩, v.text.length + (rest.take 1).length⟩) := by
  obtain ⟨kept, hscan, hkept⟩ := v.scanValue hT hrest 0
  rw [Argument.scan_of_not_mem h hscan, hkept, Nat.zero_add]

theorem drop_past {α : Type} (text rest : List α) :
    (text ++ rest).drop (text.length + (rest.take 1).length) = rest.tail := by
  rw [List.drop_append, List.drop_of_length_le (Nat.le_add_right _ _), List.nil_append,
    Nat.add_sub_cancel_left]
  cases rest <;> rfl

/-- **One argument, then the others.**  A scan that reads `text` and the terminator behind it leaves
the other arguments to be read from what comes after. -/
theorem scanAll_cons {text rest : List Char} {a : Argument} {args : List Argument}
    (h : Argument.scan terminators (text ++ rest) 0
      = .ok (some ⟨a, text.length + (rest.take 1).length⟩))
    (hrest : Argument.scanAll terminators rest.tail = .ok args) :
    Argument.scanAll terminators (text ++ rest) = .ok (a :: args) := by
  refine Argument.scanAll_eq_cons_iff.2 ⟨_, h, ?_⟩
  rw [drop_past]
  exact hrest

theorem scanAll_blank (hT : Terminating terminators) {ws : List Char} (h : Blank ws) :
    Argument.scanAll terminators ws = .ok [] := by
  have hv : scanValue terminators .lead 0 ws = .ok ([], 0 + ws.length) :=
    scanValue_eq_ok_iff.2 ⟨ws, [], .lead, (List.append_nil ws).symm, pass_blank hT (.inl rfl) h,
      by simp, rfl⟩
  exact Argument.scanAll_eq_nil_iff.2
    (Argument.scan_eq_none_iff.2 ⟨h.not_mem (by decide), [], _, hv, rfl⟩)

end LibraryCalls.Call
