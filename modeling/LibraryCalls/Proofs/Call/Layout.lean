import LibraryCalls.Proofs.Call.Enclosed
import LibraryCalls.Proofs.Call.Written

/-!
# Layouts of a call

A call may be laid out in many ways: with blanks around every name and every value, with values
bare or quoted, with commas or closing brackets between its arguments, and with any text behind its
last closing bracket.  A `Layout` is one of these ways; its named arguments come first.

A layout carries the proofs of its own well-formedness: blanks are blanks, bare values hold nothing
that would end them, names hold no equals sign, positional values are not empty and hold no equals
sign, and the separators end an argument.  So reading can be stated without a condition on the
layout, for every pair of brackets that means nothing else to the reader.

The proof goes along the list of arguments.  One scan reads one argument and leaves the texts of the
others, which is what a layout of the others looks like.

* `Layout.text`: the text that is written;
* `Layout.call`: the call that is meant;
* `parse_layout`: reading the text gives the call.
-/

namespace LibraryCalls.Call

open Text

/-- A character that may stand between two arguments. -/
abbrev Separator (terminators : List Char) := { t : Char // t ∈ terminators }

/-- A named argument as it is written, with the separator that stands behind it unless it is the
last one.  The name may hold anything but `=`, and may be empty. -/
structure WrittenNamed (terminators : List Char) where
  before : Blanks
  name : List Char
  trimmed : Trimmed name
  no_equals : '=' ∉ name
  after : Blanks
  value : PaddedValue terminators
  separator : Separator terminators

/-- A positional argument as it is written, with the separator that stands behind it unless it is
the last one. -/
structure WrittenPositional (terminators : List Char) where
  value : PaddedValue terminators
  no_equals : '=' ∉ value.text
  nonempty : value.value ≠ []
  separator : Separator terminators

/-- Texts joined by the characters that stand behind them. -/
def joinWritten : List (List Char × Char) → List Char
  | [] => []
  | [p] => p.1
  | p :: q :: rest => p.1 ++ p.2 :: joinWritten (q :: rest)

variable {terminators : List Char}

def WrittenNamed.text (w : WrittenNamed terminators) : List Char :=
  w.before.1 ++ w.name ++ w.after.1 ++ '=' :: w.value.text

def WrittenNamed.argument (w : WrittenNamed terminators) : Argument :=
  ⟨String.ofList w.name, String.ofList w.value.value⟩

def WrittenNamed.part (w : WrittenNamed terminators) : List Char × Char :=
  (w.text, w.separator.1)

def WrittenPositional.argument (w : WrittenPositional terminators) : Argument :=
  ⟨"", String.ofList w.value.value⟩

def WrittenPositional.part (w : WrittenPositional terminators) : List Char × Char :=
  (w.value.text, w.separator.1)

/-- The text of all arguments, the named ones first. -/
def writtenText (named : List (WrittenNamed terminators))
    (positional : List (WrittenPositional terminators)) : List Char :=
  joinWritten (named.map WrittenNamed.part ++ positional.map WrittenPositional.part)

/-- A call as it is written. -/
structure Layout (b : Brackets) where
  before : Blanks
  name : List Char
  trimmed : Trimmed name
  no_opening : b.opening ∉ name
  after : Blanks
  named : List (WrittenNamed b.terminators)
  positional : List (WrittenPositional b.terminators)
  /-- What stands behind the last closing bracket. -/
  tail : List Char
  no_closing : b.closing ∉ tail

def Layout.text {b : Brackets} (l : Layout b) : String :=
  String.ofList (l.before.1 ++ l.name ++ l.after.1 ++ b.opening
    :: (writtenText l.named l.positional ++ b.closing :: l.tail))

def Layout.call {b : Brackets} (l : Layout b) : Call :=
  ⟨String.ofList l.name,
    l.named.map WrittenNamed.argument ++ l.positional.map WrittenPositional.argument⟩

/-! ### Joined texts -/

/-- A joined text is its first part and what stands behind it: nothing, or the separator and the
other parts. -/
theorem joinWritten_cons (p : List Char × Char) (ps : List (List Char × Char)) :
    ∃ rest, joinWritten (p :: ps) = p.1 ++ rest ∧ rest.tail = joinWritten ps ∧
      (∀ t ∈ rest.head?, t = p.2) := by
  cases ps with
  | nil => exact ⟨[], (List.append_nil p.1).symm, rfl, by simp⟩
  | cons q rest => exact ⟨p.2 :: joinWritten (q :: rest), rfl, rfl, by simp⟩

theorem not_mem_joinWritten {c : Char} {ps : List (List Char × Char)}
    (h : ∀ p ∈ ps, c ∉ p.1 ∧ c ≠ p.2) : c ∉ joinWritten ps := by
  induction ps with
  | nil => exact List.not_mem_nil
  | cons p ps ih =>
    obtain ⟨hp, hsep⟩ := h p List.mem_cons_self
    have hps := ih fun q hq => h q (List.mem_cons_of_mem p hq)
    cases ps with
    | nil => exact hp
    | cons q rest =>
      rw [joinWritten, List.mem_append, List.mem_cons]
      rintro (hm | hm | hm)
      · exact hp hm
      · exact hsep hm
      · exact hps hm

/-! ### Reading the arguments -/

/-- Positional arguments hold no `=`, and so every one of them is read as it is written. -/
theorem scanAll_positional (hT : Terminating terminators)
    (ws : List (WrittenPositional terminators)) :
    Argument.scanAll terminators (joinWritten (ws.map WrittenPositional.part))
      = .ok (ws.map WrittenPositional.argument) := by
  induction ws with
  | nil => exact scanAll_blank hT blank_nil
  | cons w ws ih =>
    obtain ⟨rest, hjoin, htail, hhead⟩ :=
      joinWritten_cons w.part (ws.map WrittenPositional.part)
    have hends : Ends terminators rest := by
      intro t ht
      rw [hhead t ht]
      exact w.separator.2
    have hno : '=' ∉ w.value.text ++ rest := by
      rw [show w.value.text ++ rest = _ from hjoin.symm]
      apply not_mem_joinWritten
      intro p hp
      obtain ⟨v, -, rfl⟩ : ∃ v ∈ w :: ws, v.part = p := List.mem_map.1 hp
      exact ⟨v.no_equals, fun h => hT.ne_equals _ v.separator.2 h.symm⟩
    have hscan := scan_padded hT w.value hends hno
    rw [if_neg w.nonempty] at hscan
    rw [List.map_cons, hjoin]
    exact scanAll_cons hscan (by rw [htail]; exact ih)

/-- **Reading the arguments of a layout.**  The first `=` of the text that is left is the one behind
the name that is read, so long as named arguments are left. -/
theorem scanAll_written (hT : Terminating terminators) (named : List (WrittenNamed terminators))
    (positional : List (WrittenPositional terminators)) :
    Argument.scanAll terminators (writtenText named positional)
      = .ok (named.map WrittenNamed.argument ++ positional.map WrittenPositional.argument) := by
  induction named with
  | nil => exact scanAll_positional hT positional
  | cons w named ih =>
    obtain ⟨rest, hjoin, htail, hhead⟩ := joinWritten_cons w.part
      (named.map WrittenNamed.part ++ positional.map WrittenPositional.part)
    have hends : Ends terminators rest := by
      intro t ht
      rw [hhead t ht]
      exact w.separator.2
    have hname : '=' ∉ w.before.1 ++ w.name ++ w.after.1 := by
      rw [List.mem_append, List.mem_append]
      rintro ((hm | hm) | hm)
      · exact w.before.2.not_mem (by decide) hm
      · exact w.no_equals hm
      · exact w.after.2.not_mem (by decide) hm
    have hscan := scan_name_padded hT hname w.value hends
    rw [trim_between w.before.2 w.trimmed w.after.2] at hscan
    rw [writtenText, List.map_cons, List.cons_append, hjoin]
    exact scanAll_cons hscan (by rw [htail]; exact ih)

/-! ### Reading the call -/

/-- **Every layout of a call is read as the call.** -/
theorem parse_layout (b : Brackets) (hb : b.Proper) (l : Layout b) :
    parse b l.text = .ok l.call := by
  have hname : b.opening ∉ l.before.1 ++ l.name ++ l.after.1 := by
    rw [List.mem_append, List.mem_append]
    rintro ((hm | hm) | hm)
    · exact l.before.2.not_mem hb.opening.not_blank hm
    · exact l.no_opening hm
    · exact l.after.2.not_mem hb.opening.not_blank hm
  rw [Layout.text, parse_between hname l.no_closing, scanAll_written hb.terminating,
    trim_between l.before.2 l.trimmed l.after.2]
  rfl

/-- Blanks, a needless escape, a quoted terminator, a closing bracket as separator, and a tail. -/
theorem parse_layout_loose :
    Brackets.round.Proper ∧
      parse .round " lib ( a = \"x,\\)\" )z\\ y ) end"
        = .ok ⟨"lib", [⟨"a", "x,)"⟩, ⟨"", "z\\ y"⟩]⟩ := by
  refine ⟨Brackets.round_proper, parse_layout .round Brackets.round_proper
    { before := ⟨[' '], by decide⟩
      name := "lib".toList
      trimmed := by decide
      no_opening := by decide
      after := ⟨[' '], by decide⟩
      named :=
        [{ before := ⟨[' '], by decide⟩
           name := ['a']
           trimmed := by decide
           no_equals := by decide
           after := ⟨[' '], by decide⟩
           value :=
            { before := ⟨[' '], by decide⟩
              written := .quoted [.plain 'x' (by decide) (by decide),
                .plain ',' (by decide) (by decide), .escaped ')']
              after := ⟨[' '], by decide⟩ }
           separator := ⟨')', by decide⟩ }]
      positional :=
        [{ value :=
            { before := ⟨[], by decide⟩
              written := .bare "z\\ y".toList (by decide)
                (by simp [Brackets.mem_terminators, Brackets.round]) (by simp)
              after := ⟨[' '], by decide⟩ }
           no_equals := by decide
           nonempty := by decide
           separator := ⟨',', by decide⟩ }]
      tail := " end".toList
      no_closing := by decide }⟩

end LibraryCalls.Call
