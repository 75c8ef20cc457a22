import LibraryCalls.Text.Terminal

/-!
# What a plain text keeps

Only the escape character begins a control sequence, so that everything up to the first one is kept.

Everything that a command puts out goes through the removal of control sequences, and the statements
about what is seen need to know when nothing is removed.  A text without the escape character is one
case; the beginning of a text, up to the first escape character, is another, which is enough to tell
the outputs of a command from each other by how they begin.

What is removed from a text with sequences is not described here any further; for a given text it is
found by evaluation.

* `dropSequences_append`: the beginning of a text;
* `withoutSequences_append`, `withoutSequences_eq_self`: the same for texts.
-/

namespace LibraryCalls.Text

theorem dropSequences_append {cs : List Char} (h : '\x1b' ∉ cs) (rest : List Char) :
    dropSequences 0 (cs ++ rest) = cs ++ dropSequences 0 rest := by
  induction cs with
  | nil => rfl
  | cons c cs ih =>
    obtain ⟨hc, hcs⟩ := not_or.1 (mt List.mem_cons.2 h)
    have hlength : sequenceLength (c :: (cs ++ rest)) = 0 := by
      rw [sequenceLength.eq_def]
      split
      · next heq => exact absurd (List.cons.inj heq).1.symm hc
      · rfl
    rw [List.cons_append, dropSequences, hlength, ih hcs, List.cons_append]

theorem withoutSequences_append {text : String} (h : '\x1b' ∉ text.toList) (rest : String) :
    withoutSequences (text ++ rest) = text ++ withoutSequences rest := by
  rw [withoutSequences, String.toList_append, dropSequences_append h, String.ofList_append,
    String.ofList_toList, withoutSequences]

/-- **A text without an escape character** has no control sequences to lose. -/
theorem withoutSequences_eq_self {text : String} (h : '\x1b' ∉ text.toList) :
    withoutSequences text = text := by
  have happend := withoutSequences_append h ""
  rwa [String.append_empty, show withoutSequences "" = "" from rfl, String.append_empty] at happend

end LibraryCalls.Text
