import LibraryCalls.Placeholder

/-!
# What substitution puts into a text

The parts that substitution goes through make up the text.  The text with its placeholders replaced
is made of the same parts, with values in the place of some of them; everything that it has more
than the text comes from these values.

A character is said to stay out of a text if it does not occur in it.  Line ends and double quotes
are the characters of interest later on: an entry of a library that holds none can come to hold one
only through a value that is put in for one of its own placeholders.  Values of names that the text
does not mention play no part.

The parts of a text are a list, and both the text and the filled text are obtained from that list by
putting its elements behind each other, which is what all proofs here go by.

* `Piece.source`, `flatMap_source_pieces`: the parts make up the text;
* `inserted`: the values that are put in;
* `not_mem_fill_iff`: a character that the text does not hold stays out exactly when no such value
  holds it.
-/

namespace LibraryCalls.Placeholder

variable {mapping : Assoc String String} {text : String} {c : Char}

/-! ### Parts -/

def Piece.source : Piece → List Char
  | .char c => [c]
  | .hole name => written name

theorem eq_written_of_atHead? {cs name after : List Char} (h : atHead? cs = some (name, after)) :
    cs = written (String.ofList name) ++ after := by
  unfold atHead? at h
  split at h
  · rename_i rest
    split at h
    · rename_i tail hd
      split at h
      · simp at h
      · obtain ⟨rfl, rfl⟩ : rest.takeWhile isNameChar = name ∧ tail = after := by simpa using h
        have hrest : rest.takeWhile isNameChar ++ '}' :: tail = rest := by
          rw [← hd, List.takeWhile_append_dropWhile]
        simp [written, hrest]
    · simp at h
  · simp at h

/-- **The parts make up the text.** -/
theorem flatMap_source_pieces (cs : List Char) : (pieces cs).flatMap Piece.source = cs := by
  fun_induction pieces cs with
  | case1 => rfl
  | case2 c cs name after h ih =>
    rw [List.flatMap_cons, ih]
    exact (eq_written_of_atHead? h).symm
  | case3 c cs h ih =>
    rw [List.flatMap_cons, ih]
    rfl

theorem mem_of_mem_source {piece : Piece} {cs : List Char} (hpiece : piece ∈ pieces cs)
    (h : c ∈ piece.source) : c ∈ cs := by
  rw [← flatMap_source_pieces cs]
  exact List.mem_flatMap.2 ⟨piece, hpiece, h⟩

/-! ### Values -/

/-- The value put in the place of a part, if it is a placeholder that has one. -/
def Piece.value? (mapping : Assoc String String) (piece : Piece) : Option String :=
  piece.name?.bind mapping.get?

/-- The values that are put in the place of the placeholders of a text, from left to right. -/
def inserted (mapping : Assoc String String) (text : String) : List String :=
  (pieces text.toList).filterMap (Piece.value? mapping)

theorem Piece.fill_eq (piece : Piece) :
    piece.fill mapping = ((piece.value? mapping).map String.toList).getD piece.source := by
  cases piece with
  | char c => rfl
  | hole name =>
    cases h : mapping.get? name with
    | none => simp [Piece.fill, Piece.value?, Piece.name?, Piece.source, h]
    | some value => simp [Piece.fill, Piece.value?, Piece.name?, h]

/-- **What a text does not hold comes from the values.**  Such a character stays out exactly when no
value brings it in. -/
theorem not_mem_fill_iff (h : c ∉ text.toList) :
    c ∉ (fill mapping text).toList ↔ ∀ value ∈ inserted mapping text, c ∉ value.toList := by
  have hsource : ∀ piece ∈ pieces text.toList, c ∉ piece.source :=
    fun piece hpiece hc => h (mem_of_mem_source hpiece hc)
  have hpiece : ∀ piece ∈ pieces text.toList, c ∈ piece.fill mapping ↔
      ∃ value, piece.value? mapping = some value ∧ c ∈ value.toList := by
    intro piece hmem
    rw [Piece.fill_eq]
    cases piece.value? mapping with
    | none => simpa using hsource piece hmem
    | some value => simp
  rw [fill, String.toList_ofList, List.mem_flatMap, inserted]
  constructor
  · intro hnot value hvalue hc
    obtain ⟨piece, hmem, hv⟩ := List.mem_filterMap.1 hvalue
    exact hnot ⟨piece, hmem, (hpiece piece hmem).2 ⟨value, hv, hc⟩⟩
  · rintro hvalues ⟨piece, hmem, hc⟩
    obtain ⟨value, hv, hc⟩ := (hpiece piece hmem).1 hc
    exact hvalues value (List.mem_filterMap.2 ⟨piece, hmem, hv⟩) hc

end LibraryCalls.Placeholder
