import LibraryCalls.Proofs.Library.Injection
import LibraryCalls.Proofs.Placeholder.Fill
import LibraryCalls.Proofs.Text.Parts

/-!
# The lines of injected code

A definition injects one statement for each of its entries, and a line end after each statement.
How many lines that makes, and how many double quotes stand in them, is decided by the values that
are put into the entries: nothing in a value is escaped.

Code is made of statements with a line end behind each, and so a split at line ends gives back the
statements exactly if none of them holds one.  A statement holds a line end if its entry does, and
an entry with its values put in holds one if the entry itself or a value that is put in does.

The count of double quotes goes the same way.  Both are stated as equivalences, because the interest
is in what a value can do to the code, and the answer is that nothing stands in its way.

* `splitOn_code_iff`: the lines of the code are its statements, unless one holds a line end;
* `Statement.count_quote`: the double quotes of a statement;
* `splitOn_code_filled_iff`, `count_quote_filled_iff`: both in terms of the values put in.
-/

namespace LibraryCalls

open Text Placeholder

/-! ### Statements -/

namespace Statement

/-- Whether the entry of a statement stands between double quotes. -/
def isQuoted : Statement → Bool
  | .repository _ => true
  | .dependency _ => true
  | .import_ _ => false

def opening : Statement → String
  | .repository _ => "@file:Repository(\""
  | .dependency _ => "@file:DependsOn(\""
  | .import_ _ => "import "

def closing : Statement → String
  | .repository _ => "\")"
  | .dependency _ => "\")"
  | .import_ _ => ""

theorem text_eq (s : Statement) : s.text = s.opening ++ s.entry ++ s.closing := by
  cases s with
  | repository e => rfl
  | dependency e => rfl
  | import_ e => exact String.append_empty.symm

theorem toList_text (s : Statement) :
    s.text.toList = s.opening.toList ++ s.entry.toList ++ s.closing.toList := by
  rw [text_eq, String.toList_append, String.toList_append]

theorem isQuoted_withEntry (s : Statement) (entry : String) :
    (s.withEntry entry).isQuoted = s.isQuoted := by
  cases s <;> rfl

theorem entry_withEntry (s : Statement) (entry : String) : (s.withEntry entry).entry = entry := by
  cases s <;> rfl

theorem newline_mem_text_iff (s : Statement) : '\n' ∈ s.text.toList ↔ '\n' ∈ s.entry.toList := by
  have hopening : '\n' ∉ s.opening.toList := by cases s <;> simp only [opening] <;> decide
  have hclosing : '\n' ∉ s.closing.toList := by cases s <;> simp only [closing] <;> decide
  simp only [toList_text, List.mem_append, hopening, hclosing, false_or, or_false]

/-- **The double quotes of a statement**: two around an entry that stands between them, and those of
the entry. -/
theorem count_quote (s : Statement) :
    s.text.toList.count '"' = (if s.isQuoted then 2 else 0) + s.entry.toList.count '"' := by
  have houter : s.opening.toList.count '"' + s.closing.toList.count '"'
      = if s.isQuoted then 2 else 0 := by
    cases s <;> simp only [opening, closing, isQuoted, Bool.false_eq_true, if_true, if_false] <;>
      decide
  rw [toList_text, List.count_append, List.count_append, ← houter]
  omega

end Statement

/-! ### Lines -/

namespace Definition

theorem toList_code (ss : List Statement) :
    (code ss).toList = ss.flatMap fun s => s.text.toList ++ ['\n'] := by
  have hline : ∀ s : Statement, s.line.toList = s.text.toList ++ ['\n'] :=
    fun s => String.toList_append
  rw [code, String.toList_join, List.flatMap_map]
  simp only [hline]

/-- **The lines of the code are its statements**, one each, exactly when no statement holds a line
end. -/
theorem splitOn_code_iff (ss : List Statement) :
    splitOn '\n' (code ss).toList = ss.map (fun s => s.text.toList) ++ [[]] ↔
      ∀ s ∈ ss, '\n' ∉ s.text.toList := by
  constructor
  · intro h s hs
    have hline : s.text.toList ∈ splitOn '\n' (code ss).toList := by
      rw [h]
      exact List.mem_append_left _ (List.mem_map_of_mem hs)
    exact not_mem_of_mem_splitOn hline
  · intro h
    rw [toList_code]
    induction ss with
    | nil => rfl
    | cons s rest ih =>
      have hrest := ih fun t ht => h t (List.mem_cons_of_mem s ht)
      rw [List.flatMap_cons, List.append_assoc, List.singleton_append,
        splitOn_append (h s List.mem_cons_self), hrest, List.map_cons, List.cons_append]

/-! ### Values put in -/

variable {mapping : Assoc String String} {d : Definition}

/-- The statements with their values put in hold no line end exactly when no value does. -/
theorem splitOn_code_filled_iff (hplain : ∀ entry ∈ d.entries, '\n' ∉ entry.toList) :
    splitOn '\n' (code (d.filled mapping)).toList
        = (d.filled mapping).map (fun s => s.text.toList) ++ [[]] ↔
      ∀ entry ∈ d.entries, ∀ value ∈ inserted mapping entry, '\n' ∉ value.toList := by
  rw [splitOn_code_iff, filled, List.forall_mem_map]
  rw [← map_entry_statements, List.forall_mem_map] at hplain ⊢
  refine forall_congr' fun s => forall_congr' fun hs => ?_
  rw [Statement.newline_mem_text_iff, Statement.entry_withEntry]
  exact not_mem_fill_iff (hplain s hs)

/-- The entries that stand between double quotes are the repositories and the dependencies. -/
theorem forall_isQuoted_iff {P : String → Prop} :
    (∀ s ∈ d.statements, s.isQuoted = true → P s.entry) ↔
      ∀ entry ∈ d.repositories ++ d.dependencies, P entry := by
  simp [statements, or_imp, forall_and, Statement.isQuoted, Statement.entry]

/-- The statements that quote their entry hold no other double quote exactly when no value put into
such an entry does. -/
theorem count_quote_filled_iff (hplain : ∀ entry ∈ d.entries, '"' ∉ entry.toList) :
    (∀ s ∈ d.filled mapping, s.isQuoted = true → s.text.toList.count '"' = 2) ↔
      ∀ entry ∈ d.repositories ++ d.dependencies,
        ∀ value ∈ inserted mapping entry, '"' ∉ value.toList := by
  rw [filled, List.forall_mem_map, ← forall_isQuoted_iff]
  rw [← map_entry_statements, List.forall_mem_map] at hplain
  refine forall_congr' fun s => forall_congr' fun hs => ?_
  rw [Statement.isQuoted_withEntry]
  refine imp_congr_right fun hquoted => ?_
  rw [Statement.count_quote, Statement.isQuoted_withEntry, if_pos hquoted,
    Statement.entry_withEntry, ← not_mem_fill_iff (hplain s hs), ← List.count_eq_zero]
  omega

end Definition

end LibraryCalls
