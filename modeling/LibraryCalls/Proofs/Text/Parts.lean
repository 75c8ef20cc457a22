import LibraryCalls.Text.Cut
import LibraryCalls.Text.Split

/-!
# Parts of texts

How splitting, joining and cutting go together with putting texts behind each other.

Paths and URLs are built by putting texts behind each other with a separator in between and are
taken apart by splitting; the lemmas here carry facts from the whole to the parts and back.  Each of
them is about any separator and any texts, since it is used with slashes, dots, ampersands and line
ends alike.

Cutting at the last occurrence looks from the far end, so a text that is put in front changes
nothing unless it holds the character and what stands behind does not.

* `not_mem_of_mem_splitOn`, `mem_of_mem_splitOn`, `mem_joinWith`: the characters of parts and of
  joined texts;
* `splitOn_append_cons`, `joinWith_append`: two texts with the separator between them;
* `getD_cutLast_append`: cutting behind a text that does not hold the character.
-/

namespace LibraryCalls.Text

variable {c d : Char} {cs head part : List Char} {parts : List (List Char)}

theorem not_mem_of_mem_splitOn (h : part ∈ splitOn c cs) : c ∉ part := by
  induction cs generalizing part with
  | nil =>
    obtain rfl : part = [] := by simpa [splitOn] using h
    simp
  | cons x xs ih =>
    rw [splitOn] at h
    split at h
    · rcases List.mem_cons.1 h with rfl | h
      · simp
      · exact ih h
    · rename_i hx
      cases hxs : splitOn c xs with
      | nil => exact absurd hxs (splitOn_ne_nil c xs)
      | cons first rest =>
        rw [hxs] at h ih
        rcases List.mem_cons.1 h with rfl | h
        · simp [ih List.mem_cons_self, Ne.symm hx]
        · exact ih (List.mem_cons_of_mem first h)

theorem mem_of_mem_splitOn (h : part ∈ splitOn c cs) (hd : d ∈ part) : d ∈ cs := by
  have hmem : ∀ parts : List (List Char), part ∈ parts → d ∈ joinWith c parts := by
    intro parts hpart
    fun_induction joinWith c parts with
    | case1 => exact absurd hpart List.not_mem_nil
    | case2 only => exact List.mem_singleton.1 hpart ▸ hd
    | case3 first next rest ih =>
      rcases List.mem_cons.1 hpart with rfl | hpart
      · exact List.mem_append_left _ hd
      · exact List.mem_append_right _ (List.mem_cons_of_mem c (ih hpart))
  exact joinWith_splitOn c cs ▸ hmem _ h

theorem mem_joinWith (h : c ∈ joinWith d parts) : c = d ∨ ∃ part ∈ parts, c ∈ part := by
  fun_induction joinWith d parts with
  | case1 => simp at h
  | case2 part => exact .inr ⟨part, List.mem_singleton_self part, h⟩
  | case3 part next rest ih =>
    rcases List.mem_append.1 h with h | h
    · exact .inr ⟨part, List.mem_cons_self, h⟩
    · rcases List.mem_cons.1 h with rfl | h
      · exact .inl rfl
      · rcases ih h with rfl | ⟨p, hp, hc⟩
        · exact .inl rfl
        · exact .inr ⟨p, List.mem_cons_of_mem part hp, hc⟩

theorem splitOn_append_cons (c : Char) (xs ys : List Char) :
    splitOn c (xs ++ c :: ys) = splitOn c xs ++ splitOn c ys := by
  induction xs with
  | nil => simp [splitOn]
  | cons x xs ih =>
    rw [List.cons_append, splitOn, splitOn, ih]
    split
    · rfl
    · cases hxs : splitOn c xs with
      | nil => exact absurd hxs (splitOn_ne_nil c xs)
      | cons first rest => rfl

theorem joinWith_append {xs ys : List (List Char)} (hx : xs ≠ []) (hy : ys ≠ []) :
    joinWith c (xs ++ ys) = joinWith c xs ++ c :: joinWith c ys := by
  fun_induction joinWith c xs with
  | case1 => exact absurd rfl hx
  | case2 part =>
    obtain ⟨y, ys, rfl⟩ := List.exists_cons_of_ne_nil hy
    rfl
  | case3 part next rest ih =>
    have hrest := ih (by simp)
    simp only [List.cons_append, joinWith, List.append_assoc] at hrest ⊢
    rw [hrest]

/-- What stands before the last occurrence of a character begins with any text at the head that does
not hold it. -/
theorem getD_cutLast_append (hc : c ∉ head) (rest : List Char) :
    ∃ more, ((cutLast c (head ++ rest)).getD (head ++ rest, [])).1 = head ++ more := by
  cases h : cutLast c (head ++ rest) with
  | none => exact ⟨rest, rfl⟩
  | some p =>
    obtain ⟨hsplit, -⟩ := cutLast_eq_some_iff.1 (show _ = some (p.1, p.2) from h)
    rcases List.append_eq_append_iff.1 hsplit with ⟨more, hp, -⟩ | ⟨more, hhead, hmore⟩
    · exact ⟨more, hp⟩
    · cases more with
      | nil => exact ⟨[], by simpa using hhead.symm⟩
      | cons d more =>
        -- the character at which the text is cut would stand in its head
        obtain ⟨rfl, -⟩ := List.cons.inj hmore
        exact absurd (hhead ▸ List.mem_append_right _ List.mem_cons_self) hc

end LibraryCalls.Text
