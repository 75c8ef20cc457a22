import LibraryCalls.Placeholder
import LibraryCalls.Proofs.Assoc

/-!
# The names of placeholders

The names of a text are those of the placeholders that substitution goes through.  Which of them
have no value depends on the keys of the mapping alone.

Listing each name once, at its first occurrence, is an operation on lists that has nothing to do
with placeholders, and its laws are proved for lists of any kind: what it does to two lists behind
each other and to a list from which elements are left out, and that it agrees with the operation of
the library that does the same.

The names without a value are the names of the text that are not among the keys.  The values
themselves are never looked at, so that two mappings with the same keys cannot be told apart by what
is missing.

* `firstOccurrences_filter`, `firstOccurrences_append`, `firstOccurrences_eq_eraseDups`: each
  element once, where it first occurs;
* `mem_names_iff`: a name stands for a placeholder of the text;
* `missing_eq_nil_iff`: every placeholder has a value;
* `missing_congr`: mappings with the same keys miss the same names.
-/

namespace LibraryCalls.Placeholder

variable {mapping other : Assoc String String} {text name : String}

theorem mem_firstOccurrences {α : Type} [DecidableEq α] {x : α} {l : List α} :
    x ∈ firstOccurrences l ↔ x ∈ l := by
  induction l with
  | nil => rfl
  | cons y l ih =>
    rw [firstOccurrences, List.mem_cons, List.mem_cons, List.mem_filter, ih]
    by_cases h : x = y <;> simp [h]

theorem firstOccurrences_filter {α : Type} [DecidableEq α] (p : α → Bool) (l : List α) :
    firstOccurrences (l.filter p) = (firstOccurrences l).filter p := by
  induction l with
  | nil => rfl
  | cons x l ih =>
    have hcomm : ((firstOccurrences l).filter p).filter (· ≠ x)
        = ((firstOccurrences l).filter (· ≠ x)).filter p := by
      rw [List.filter_filter, List.filter_filter]
      exact List.filter_congr fun y _ => Bool.and_comm _ _
    cases hx : p x with
    | true =>
      rw [List.filter_cons_of_pos hx, firstOccurrences, firstOccurrences, ih, hcomm,
        List.filter_cons_of_pos hx]
    | false =>
      -- the element that is left out cannot be among those that are kept
      have hkept : ((firstOccurrences l).filter (· ≠ x)).filter p =
          (firstOccurrences l).filter p := by
        rw [← hcomm, List.filter_eq_self]
        intro y hy
        have hne : y ≠ x := by
          rintro rfl
          rw [(List.mem_filter.1 hy).2] at hx
          cases hx
        simpa using hne
      rw [List.filter_cons_of_neg (by simp [hx]), firstOccurrences,
        List.filter_cons_of_neg (by simp [hx]), ih, hkept]

/-- **Two lists behind each other** have the elements of the first, and then the new ones of the
second. -/
theorem firstOccurrences_append {α : Type} [DecidableEq α] (xs ys : List α) :
    firstOccurrences (xs ++ ys)
      = firstOccurrences xs ++ (firstOccurrences ys).filter fun y => y ∉ xs := by
  induction xs with
  | nil => simp [firstOccurrences]
  | cons x xs ih =>
    have hnew : ((firstOccurrences ys).filter fun y => y ∉ xs).filter (· ≠ x)
        = (firstOccurrences ys).filter fun y => y ∉ x :: xs := by
      rw [List.filter_filter]
      exact List.filter_congr fun y _ => by simp
    rw [List.cons_append, firstOccurrences, firstOccurrences, ih, List.filter_append, hnew,
      List.cons_append]

/-- Each element where it first occurs, in the library's words. -/
theorem firstOccurrences_eq_eraseDups {α : Type} [DecidableEq α] (l : List α) :
    firstOccurrences l = l.eraseDups := by
  induction hlen : l.length using Nat.strongRecOn generalizing l with
  | ind n ih =>
  cases l with
  | nil => rfl
  | cons x l =>
    have hshort : (l.filter (· ≠ x)).length < n := by
      have hle := List.length_filter_le (fun y => decide (y ≠ x)) l
      simp only [List.length_cons] at hlen
      omega
    have hrest := ih _ hshort (l.filter (· ≠ x)) rfl
    rw [firstOccurrences, List.eraseDups_cons, ← firstOccurrences_filter, hrest]
    congr 3
    funext y
    simp [beq_eq_decide]

theorem nodup_firstOccurrences {α : Type} [DecidableEq α] (l : List α) :
    (firstOccurrences l).Nodup := by
  induction l with
  | nil => exact List.nodup_nil
  | cons x l ih =>
    refine List.nodup_cons.2 ⟨fun hx => ?_, ih.filter _⟩
    simpa using (List.mem_filter.1 hx).2

theorem firstOccurrences_of_nodup {α : Type} [DecidableEq α] {l : List α} (h : l.Nodup) :
    firstOccurrences l = l := by
  induction l with
  | nil => rfl
  | cons x l ih =>
    obtain ⟨hx, hl⟩ := List.nodup_cons.1 h
    rw [firstOccurrences, ih hl, List.filter_eq_self.2]
    intro y hy
    simpa using fun he : y = x => hx (he ▸ hy)

/-- **The names of a text** are those of the placeholders that substitution goes through. -/
theorem mem_names_iff : name ∈ names text ↔ Piece.hole name ∈ pieces text.toList := by
  rw [names, mem_firstOccurrences, List.mem_filterMap]
  constructor
  · rintro ⟨piece, hpiece, hname⟩
    cases piece with
    | char c => simp [Piece.name?] at hname
    | hole n =>
      obtain rfl : n = name := Option.some.inj hname
      exact hpiece
  · intro h
    exact ⟨.hole name, h, rfl⟩

theorem missing_eq_filter_keys (mapping : Assoc String String) (text : String) :
    missing mapping text = (names text).filter fun name => name ∉ mapping.keys := by
  refine List.filter_congr fun name _ => ?_
  rw [decide_not, Bool.not_inj_iff, Bool.eq_iff_iff, Assoc.contains_eq_true_iff, decide_eq_true_eq]

theorem missing_eq_nil_iff :
    missing mapping text = [] ↔ ∀ n, Piece.hole n ∈ pieces text.toList → n ∈ mapping.keys := by
  simp only [missing, List.filter_eq_nil_iff, Bool.not_eq_true', Bool.not_eq_false,
    Assoc.contains_eq_true_iff, mem_names_iff]

/-- **Mappings with the same keys miss the same names**, in the same order. -/
theorem missing_congr (h : ∀ n, n ∈ mapping.keys ↔ n ∈ other.keys) (text : String) :
    missing mapping text = missing other text := by
  rw [missing, missing]
  refine List.filter_congr fun n _ => ?_
  rw [Bool.not_inj_iff, Bool.eq_iff_iff, Assoc.contains_eq_true_iff, Assoc.contains_eq_true_iff]
  exact h n

end LibraryCalls.Placeholder
