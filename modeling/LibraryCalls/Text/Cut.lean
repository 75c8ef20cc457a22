/-!
# Cutting a text at a character

The parts of a text before and after the first, or the last, occurrence of a character.

Nothing is said about what the parts are made of: the part before the first occurrence holds the
character nowhere, and so does the part after the last one, but the other part may hold it.  The two
statements about the parts say this together with the way in which the text is put together from
them, and so everything there is to know of a cut can be had by rewriting with one of them.

Cutting a text that does not hold the character gives nothing, which is how callers tell that a
separator was left out.

* `cutFirst_eq_some_iff`, `cutLast_eq_some_iff`: what the parts are;
* `cutFirst_eq_none_iff`, `cutLast_eq_none_iff`: there are none exactly when the character is
  absent;
* `cutFirst`, `cutLast`: the two cuts.
-/

namespace LibraryCalls.Text

/-- The parts before and after the first occurrence of `c`. -/
def cutFirst (c : Char) : List Char → Option (List Char × List Char)
  | [] => none
  | x :: xs => if x = c then some ([], xs) else (cutFirst c xs).map fun p => (x :: p.1, p.2)

/-- The parts before and after the last occurrence of `c`. -/
def cutLast (c : Char) : List Char → Option (List Char × List Char)
  | [] => none
  | x :: xs =>
    match cutLast c xs with
    | some p => some (x :: p.1, p.2)
    | none => if x = c then some ([], xs) else none

theorem cutFirst_eq_some_iff {c : Char} {s before after : List Char} :
    cutFirst c s = some (before, after) ↔ s = before ++ c :: after ∧ c ∉ before := by
  induction s generalizing before with
  | nil => simp [cutFirst]
  | cons x xs ih =>
    by_cases hx : x = c
    · subst hx
      cases before with
      | nil => simp [cutFirst, eq_comm]
      | cons b bs =>
        simp only [cutFirst, if_pos, Option.some.injEq, Prod.mk.injEq]
        constructor
        · rintro ⟨h, _⟩
          exact absurd h (by simp)
        · rintro ⟨h, hb⟩
          simp only [List.cons_append, List.cons.injEq] at h
          exact absurd (by simp [h.1]) hb
    · cases before with
      | nil =>
        simp only [cutFirst, hx, if_false, Option.map_eq_some_iff, List.nil_append]
        constructor
        · rintro ⟨p, _, h⟩
          simp at h
        · rintro ⟨h, _⟩
          simp only [List.cons.injEq] at h
          exact absurd h.1 hx
      | cons b bs =>
        simp only [cutFirst, hx, if_false, Option.map_eq_some_iff]
        constructor
        · rintro ⟨⟨p, q⟩, hp, h⟩
          simp only [Prod.mk.injEq, List.cons.injEq] at h
          obtain ⟨⟨rfl, rfl⟩, rfl⟩ := h
          obtain ⟨rfl, hc⟩ := ih.1 hp
          exact ⟨rfl, by simp [hc, Ne.symm hx]⟩
        · rintro ⟨h, hc⟩
          simp only [List.cons_append, List.cons.injEq] at h
          obtain ⟨rfl, rfl⟩ := h
          simp only [List.mem_cons, not_or] at hc
          exact ⟨(bs, after), ih.2 ⟨rfl, hc.2⟩, rfl⟩

theorem cutFirst_eq_none_iff {c : Char} {s : List Char} : cutFirst c s = none ↔ c ∉ s := by
  induction s with
  | nil => simp [cutFirst]
  | cons x xs ih =>
    by_cases hx : x = c
    · simp [cutFirst, hx]
    · simp [cutFirst, hx, ih, Ne.symm hx]

theorem cutLast_eq_none_iff {c : Char} {s : List Char} : cutLast c s = none ↔ c ∉ s := by
  induction s with
  | nil => simp [cutLast]
  | cons x xs ih =>
    cases h : cutLast c xs with
    | some p =>
      have : c ∈ xs := by
        by_cases hm : c ∈ xs
        · exact hm
        · simp [ih.2 hm] at h
      simp [cutLast, h, this]
    | none =>
      have hm := ih.1 h
      by_cases hx : x = c
      · simp [cutLast, h, hx]
      · simp [cutLast, h, hx, hm, Ne.symm hx]

theorem cutLast_eq_some_iff {c : Char} {s before after : List Char} :
    cutLast c s = some (before, after) ↔ s = before ++ c :: after ∧ c ∉ after := by
  induction s generalizing before with
  | nil => simp [cutLast]
  | cons x xs ih =>
    cases h : cutLast c xs with
    | some p =>
      have hm : c ∈ xs := by
        by_cases hm : c ∈ xs
        · exact hm
        · simp [cutLast_eq_none_iff.2 hm] at h
      cases before with
      | nil =>
        simp only [cutLast, h, Option.some.injEq, Prod.mk.injEq, List.nil_append, List.cons.injEq]
        constructor
        · rintro ⟨h, _⟩
          simp at h
        · rintro ⟨⟨_, rfl⟩, hc⟩
          exact absurd hm hc
      | cons b bs =>
        simp only [cutLast, h, Option.some.injEq, Prod.mk.injEq, List.cons_append, List.cons.injEq]
        constructor
        · rintro ⟨⟨rfl, hb⟩, ha⟩
          obtain ⟨rfl, hc⟩ := (@ih bs).1 (by rw [h, ← hb, ← ha])
          exact ⟨⟨rfl, rfl⟩, hc⟩
        · rintro ⟨⟨rfl, hx⟩, hc⟩
          have := (@ih bs).2 ⟨hx, hc⟩
          rw [h, Option.some.injEq] at this
          simp [this]
    | none =>
      have hm := cutLast_eq_none_iff.1 h
      cases before with
      | nil =>
        by_cases hx : x = c
        · subst hx
          simp only [cutLast, h, if_true, Option.some.injEq, Prod.mk.injEq, true_and,
            List.nil_append, List.cons.injEq]
          exact ⟨fun e => ⟨e, e ▸ hm⟩, fun e => e.1⟩
        · simp [cutLast, h, hx]
      | cons b bs =>
        simp only [cutLast, h, List.cons_append, List.cons.injEq]
        constructor
        · intro e
          split at e <;> simp at e
        · rintro ⟨⟨_, rfl⟩, _⟩
          simp at hm

end LibraryCalls.Text
