import LibraryCalls.Library.Descriptor
import LibraryCalls.Proofs.Json.Within

/-!
# How reading a descriptor ends

A descriptor text is read, or it is rejected: because it is no JSON, because it is no object, or
because some of its fields have the wrong type.  There is one more ending, which is no rejection: a
whole number with more digits than it may have, wherever it stands in the text.

The reasons speak of the text and of the value in it and not of the steps of the reader, so that
they can be checked from outside: the text has no value at all, it has a value that is no object, or
the object has faults by the schema.  The endings exclude each other, and each is stated with the
name under which it is reported.

The number that is too long is found anywhere in the text, also under a name that no descriptor has.
It leaves the function in a way of its own, with the number of the digits and without the name of
the library.

* `Descriptor.Rejects`: why a text is rejected;
* `Descriptor.parse_ends`: a text is read, or rejected for such a reason, or holds a number that is
  too long;
* `Json.decode_ones`, `Descriptor.parse_not_rejected`: a row of ones that is too long is not
  rejected.
-/

namespace LibraryCalls

open Text (points)

variable {τ : Type} [DecidableEq τ] [Textual τ]

/-! ### Endings -/

/-- Why a descriptor text is rejected: it is no JSON, no object, or fields have the wrong type. -/
inductive Descriptor.Rejects (text : τ) : Cause → Prop
  | malformed {problem : Json.Problem} {position : Nat}
      (decoded : Json.decode text = .error (.malformed problem position)) :
      Rejects text (.malformed problem (Json.lineOf (Textual.toPoints text) position)
        (Json.columnOf (Textual.toPoints text) position))
  | notAnObject {raw : Json τ} (decoded : Json.decode text = .ok raw)
      (other : ∀ members, raw ≠ .obj members) : Rejects text (.notAnObject raw.kind)
  | faulty {members : List (τ × Json τ)} (decoded : Json.decode text = .ok (.obj members))
      (faults : (check (.obj members)).faults ≠ 0) :
      Rejects text (.faulty (check (.obj members)).faults)

namespace Descriptor

/-- **How reading a descriptor ends.**  It is read if it is an object without faults, and otherwise
rejected under the name that is given, for a reason that it has.  Only a whole number that is too
long is not rejected, and then the text holds that many digits in a row. -/
theorem parse_ends (name : Option τ) (text : τ) :
    (∃ members, Json.decode text = .ok (.obj members) ∧ (check (.obj members)).faults = 0 ∧
        parse name text = .ok (check (.obj members)).value) ∨
      (∃ cause, Rejects text cause ∧ parse name text = .error (.rejected ⟨name, cause⟩)) ∨
      (∃ n, Json.Oversized (Textual.toPoints text) n ∧
        Json.decode text = .error (.oversizedInteger n) ∧
        parse name text = .error (.oversizedInteger n)) := by
  rw [parse]
  cases hdecode : Json.decode text with
  | error e =>
    cases e with
    | malformed problem position => exact .inr (.inl ⟨_, .malformed hdecode, rfl⟩)
    | oversizedInteger n =>
      exact .inr (.inr ⟨n, Json.decode_oversized hdecode, rfl, rfl⟩)
  | ok raw =>
    cases raw with
    | obj members =>
      simp only [ofJson, Checked.toExcept]
      by_cases hfaults : (check (.obj members)).faults = 0
      · rw [if_pos hfaults]
        exact .inl ⟨members, rfl, hfaults, rfl⟩
      · rw [if_neg hfaults]
        exact .inr (.inl ⟨_, .faulty hdecode hfaults, rfl⟩)
    | _ => exact .inr (.inl ⟨_, .notAnObject hdecode nofun, rfl⟩)

end Descriptor

/-! ### A number that is too long -/

namespace Json

theorem points_ones (n : Nat) : points (List.replicate n '1') = List.replicate n (.char '1') :=
  List.map_replicate

theorem leadingDigits_ones (n : Nat) :
    leadingDigits (List.replicate n (.char '1')) = (List.replicate n '1', []) := by
  induction n with
  | zero => rfl
  | succ n ih =>
    rw [List.replicate_succ, leadingDigits, if_pos (by decide), ih, List.replicate_succ]

/-- A row of ones, read as a whole number. -/
theorem readUnsigned_ones {n : Nat} (h : Text.maxDigits < n + 1) (start : CodePoints) :
    (readUnsigned start false (List.replicate (n + 1) (.char '1')) :
      Except Fault (Json × CodePoints)) = .error (.oversizedInteger (n + 1)) := by
  have hwhole : wholeDigits (List.replicate (n + 1) (.char '1'))
      = some (List.replicate (n + 1) '1', []) := by
    rw [List.replicate_succ, wholeDigits.eq_2 _ (by simp), ← List.replicate_succ, digits?,
      leadingDigits_ones]
    rfl
  rw [readUnsigned, hwhole]
  simp only [fractionDigits, exponentPart, List.length_replicate, if_pos h]

/-- **A row of ones** is no value when it is too long. -/
theorem decode_ones {n : Nat} (h : Text.maxDigits < n + 1) :
    decode (String.ofList (List.replicate (n + 1) '1')) = .error (.oversizedInteger (n + 1)) := by
  let ones : CodePoints := List.replicate (n + 1) (.char '1')
  have hspaces : skipSpaces ones = ones := by
    rw [skipSpaces, List.dropWhile_replicate, if_neg (by decide)]
  have hread : (readValue (2 * ones.length + 2) ones : Except Fault (Json × CodePoints))
      = readUnsigned ones false ones := by
    simp only [ones, List.replicate_succ]
    rfl
  have htext : (readText ones : Except Fault Json) = .error (.oversizedInteger (n + 1)) := by
    rw [readText.eq_2 _ (by simp [ones, List.replicate_succ]), hspaces, hread, readUnsigned_ones h]
  rw [decode, Textual.toPoints_string, String.toList_ofList, points_ones, htext]
  rfl

end Json

theorem Descriptor.parse_ones {n : Nat} (h : Text.maxDigits < n + 1) (name : Option String) :
    parse name (String.ofList (List.replicate (n + 1) '1'))
      = .error (.oversizedInteger (n + 1)) := by
  rw [parse, Json.decode_ones h]

/-- **A number that is too long is not rejected**, although it is no descriptor. -/
theorem Descriptor.parse_not_rejected :
    ¬ ∀ (name : Option String) (text : String), (∃ d, parse name text = .ok d) ∨
      ∃ e, parse name text = .error (.rejected e) := by
  intro h
  have hparse := parse_ones (show Text.maxDigits < 4300 + 1 by decide) none
  rcases h none (String.ofList (List.replicate (4300 + 1) '1')) with ⟨d, hd⟩ | ⟨e, he⟩
  · rw [hparse] at hd
    cases hd
  · rw [hparse] at he
    cases he

end LibraryCalls
