import LibraryCalls.Json.Nesting
import Mathlib.Data.List.Count

/-!
# Texts that there is room for, and texts that there is not

Whether a text is too much for the room of a reader depends on how the brackets stand and on where
the strings are.  Two kinds of texts can be told without a look at either: with no more opening
brackets and braces than there is room for, none of them is too much, wherever they stand; and a
text that opens one list more than that, right at its beginning, is too much, whatever follows.

Both facts are about the search for the first bracket that is too much.  For texts with few brackets
the search is followed character by character, with the invariant that the brackets which are open
and those still to come are no more than there is room for.  For the others the beginning of the
text is computed: a row of opening brackets is itself the shortest beginning in question, and
reading it goes wrong at its end because a value is missing there.

Together they make the assumption that there is room one that can be checked on a given text.

* `crowded?_of_countP_le`, `exhausts_of_countP_le`: texts with few brackets;
* `readText_brackets`, `exhausts_brackets`: texts with many of them at the beginning.
-/

namespace LibraryCalls.Json

variable {room depth n : Nat} {cs : CodePoints}

/-! ### Few brackets -/

/-- **With few brackets left**, none of them is too much.  The induction is that of the search, and
what is open already counts like what is still to come. -/
theorem crowded?_of_countP_le {quoted : Bool} (h : depth + cs.countP opens ≤ room) :
    crowded? room depth quoted cs = none := by
  fun_induction crowded? room depth quoted cs with
  | case1 => rfl
  | case2 depth p rest ih =>
    simp only [List.countP_cons] at h
    rw [ih (by omega), Option.map_none]
  | case3 depth p rest _ ih =>
    simp only [List.countP_cons] at h
    rw [ih (by omega), Option.map_none]
  | case4 depth p rest hopens hfull =>
    simp only [List.countP_cons, hopens, if_true] at h
    omega
  | case5 depth p rest hopens _ ih =>
    simp only [List.countP_cons, hopens, if_true] at h
    rw [ih (by omega), Option.map_none]
  | case6 depth p rest _ ih =>
    simp only [List.countP_cons] at h
    rw [ih (by split <;> omega), Option.map_none]

/-- **There is room for a text with few brackets.** -/
theorem exhausts_of_countP_le (h : cs.countP opens ≤ room) : exhausts room cs = false := by
  rw [exhausts, crowded?_of_countP_le (by omega)]

/-! ### Many brackets -/

def brackets (n : Nat) : CodePoints :=
  List.replicate n (.char '[')

theorem brackets_succ (n : Nat) : brackets (n + 1) = .char '[' :: brackets n := rfl

/-- The bracket for which there is no room is the last one of them that counts. -/
theorem crowded?_brackets (h : depth ≤ room) (rest : CodePoints) :
    crowded? room depth false (brackets (room + 1 - depth) ++ rest)
      = some (brackets (room + 1 - depth)) := by
  obtain ⟨left, rfl⟩ := Nat.exists_eq_add_of_le h
  have hleft : depth + left + 1 - depth = left + 1 := by omega
  rw [hleft]
  clear h hleft
  induction left generalizing depth with
  | zero => simp [brackets, crowded?, opens]
  | succ left ih =>
    have hnext := @ih (depth + 1)
    rw [show depth + 1 + left = depth + (left + 1) by omega] at hnext
    rw [brackets_succ (left + 1), List.cons_append, crowded?, if_pos (by decide),
      if_neg (by omega), hnext, Option.map_some]

/-- Opening brackets alone are no value, because of what is missing at their end. -/
theorem readValue_brackets {τ : Type} [DecidableEq τ] [Textual τ] {fuel : Nat}
    (h : 2 * n < fuel) :
    (readValue fuel (brackets n) : Except Fault (Json τ × CodePoints))
      = .error (.malformed .noValue []) := by
  induction n generalizing fuel with
  | zero =>
    obtain ⟨fuel, rfl⟩ := Nat.exists_eq_succ_of_ne_zero (by omega : fuel ≠ 0)
    rfl
  | succ n ih =>
    obtain ⟨fuel, rfl⟩ := Nat.exists_eq_add_of_le' (by omega : 2 ≤ fuel)
    have hspaces : skipSpaces (brackets n) = brackets n := by cases n <;> rfl
    have hitems : (readItems (fuel + 1) (brackets n) : Except Fault (List (Json τ) × CodePoints))
        = .error (.malformed .noValue []) := by
      rw [readItems, ih (by omega)]
    have hopen : ∀ rest, brackets n ≠ .char ']' :: rest := by
      intro rest
      cases n with
      | zero => exact nofun
      | succ n => simp [brackets_succ]
    rw [brackets_succ, readValue, hspaces]
    split
    · next rest heq => exact absurd heq (hopen rest)
    · rw [hitems]
      rfl

theorem readText_brackets {τ : Type} [DecidableEq τ] [Textual τ] :
    (readText (brackets (n + 1)) : Except Fault (Json τ)) = .error (.malformed .noValue []) := by
  have hread : (readValue (2 * (brackets (n + 1)).length + 2) (brackets (n + 1)) :
      Except Fault (Json τ × CodePoints)) = .error (.malformed .noValue []) :=
    readValue_brackets (by rw [brackets, List.length_replicate]; omega)
  have hspaces : skipSpaces (brackets (n + 1)) = brackets (n + 1) := rfl
  rw [readText, hspaces, hread]
  rw [brackets_succ]
  exact nofun

/-- **There is no room for a text that begins with too many brackets.** -/
theorem exhausts_brackets (room : Nat) (rest : CodePoints) :
    exhausts room (brackets (room + 1) ++ rest) = true := by
  have hcrowded := crowded?_brackets (Nat.zero_le room) rest
  rw [Nat.sub_zero] at hcrowded
  rw [exhausts, hcrowded]
  simp only [readText_brackets]

end LibraryCalls.Json
