/-!
# Splitting and joining

A text split at every occurrence of a character, and parts joined with a character between them.

A text without the separator is one part, and the empty text is one empty part, so that there is
always at least one; two separators next to each other, or one at an end, give an empty part.
Joining is the inverse on both sides, as long as no part holds the separator, and this is the form
in which paths, queries and the labels of host names are taken apart and put together.

What splitting does to texts that are put behind each other is in `LibraryCalls.Proofs.Text.Parts`.

* `joinWith_splitOn`: joining undoes splitting;
* `splitOn_joinWith`: splitting undoes joining, for parts that do not hold the character;
* `splitOn`, `joinWith`: the two operations.
-/

namespace LibraryCalls.Text

/-- The parts of a text between the occurrences of `c`; there is always at least one. -/
def splitOn (c : Char) : List Char → List (List Char)
  | [] => [[]]
  | x :: xs =>
    if x = c then [] :: splitOn c xs
    else
      match splitOn c xs with
      | [] => [[x]]
      | part :: parts => (x :: part) :: parts

def joinWith (c : Char) : List (List Char) → List Char
  | [] => []
  | [part] => part
  | part :: next :: parts => part ++ c :: joinWith c (next :: parts)

theorem splitOn_ne_nil (c : Char) (s : List Char) : splitOn c s ≠ [] := by
  cases s with
  | nil => simp [splitOn]
  | cons x xs =>
    simp only [splitOn]
    split
    · simp
    · split <;> simp

theorem joinWith_splitOn (c : Char) (s : List Char) : joinWith c (splitOn c s) = s := by
  induction s with
  | nil => rfl
  | cons x xs ih =>
    cases hp : splitOn c xs with
    | nil => exact absurd hp (splitOn_ne_nil c xs)
    | cons part parts =>
      rw [hp] at ih
      by_cases hx : x = c
      · simp [splitOn, hx, hp, joinWith, ih]
      · cases parts with
        | nil => simpa [splitOn, hx, hp, joinWith] using ih
        | cons next rest => simpa [splitOn, hx, hp, joinWith] using ih

theorem splitOn_of_not_mem {c : Char} {s : List Char} (h : c ∉ s) : splitOn c s = [s] := by
  induction s with
  | nil => rfl
  | cons x xs ih =>
    simp only [List.mem_cons, not_or] at h
    simp [splitOn, Ne.symm h.1, ih h.2]

theorem splitOn_append {c : Char} {s : List Char} (h : c ∉ s) (rest : List Char) :
    splitOn c (s ++ c :: rest) = s :: splitOn c rest := by
  induction s with
  | nil => simp [splitOn]
  | cons x xs ih =>
    simp only [List.mem_cons, not_or] at h
    simp [splitOn, Ne.symm h.1, ih h.2]

theorem splitOn_joinWith {c : Char} {parts : List (List Char)} (hne : parts ≠ [])
    (h : ∀ part ∈ parts, c ∉ part) : splitOn c (joinWith c parts) = parts := by
  induction parts with
  | nil => exact absurd rfl hne
  | cons part parts ih =>
    cases parts with
    | nil => exact splitOn_of_not_mem (h part (by simp))
    | cons next rest =>
      simp only [joinWith]
      rw [splitOn_append (h part (by simp)), ih (by simp) fun p hp => h p (by simp [hp])]

end LibraryCalls.Text
