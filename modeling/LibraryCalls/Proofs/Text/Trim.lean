import Mathlib.Data.List.DropRight
import LibraryCalls.Text.Blank

/-!
# Trimming a text

`trim` takes the blanks off both ends of a text and nothing else.

Trimmed texts are those without a blank at either end, and the empty text is one of them.  The
theory of calls uses trimming in both directions: a value that was read is trimmed, and a trimmed
value is found again when blanks are written around it.  All statements are for lists of characters,
which is what the readers work on.

Trimming is done from the left and from the right, and the two do not get in each other's way; that
is proved once, for the first character behind the blanks, and used everywhere else.

* `trim_eq_self_iff`: the texts that `trim` leaves alone are the trimmed ones;
* `trim_blank_append`, `trim_append_blank`: blanks put before or after a text are lost again;
* `trim_between`: a trimmed text is found again between blanks;
* `exists_blanks_trim`: every text is a trimmed one between blanks;
* `trim_eq_nil_iff`: nothing is left of a blank text, and only of a blank one.
-/

namespace LibraryCalls.Text

def Blank (cs : List Char) : Prop := ∀ c ∈ cs, isBlank c = true

instance (cs : List Char) : Decidable (Blank cs) :=
  List.decidableBAll (fun c => isBlank c = true) cs

theorem blank_nil : Blank [] := by
  intro c hc
  simp at hc

theorem ne_of_isBlank {c d : Char} (hc : isBlank c = true) (hd : isBlank d = false) : c ≠ d := by
  rintro rfl
  rw [hc] at hd
  exact Bool.noConfusion hd

theorem Blank.not_mem {cs : List Char} (h : Blank cs) {c : Char} (hc : isBlank c = false) :
    c ∉ cs :=
  fun hm => ne_of_isBlank (h c hm) hc rfl

theorem trimEnd_eq_rdropWhile (cs : List Char) : trimEnd cs = cs.rdropWhile isBlank := rfl

/-! ### What the two halves leave -/

theorem trimStart_eq_self {cs : List Char} (h : ∀ c ∈ cs.head?, isBlank c = false) :
    trimStart cs = cs := by
  cases cs with
  | nil => rfl
  | cons c cs =>
    have hc : isBlank c = false := h c rfl
    exact List.dropWhile_cons_of_neg (by simp [hc])

theorem head?_trimStart (cs : List Char) : ∀ c ∈ (trimStart cs).head?, isBlank c = false := by
  intro c hc
  have h := List.head?_dropWhile_not isBlank cs
  rw [show (cs.dropWhile isBlank).head? = some c from hc] at h
  simpa using h

theorem trimEnd_eq_self {cs : List Char} (h : ∀ c ∈ cs.getLast?, isBlank c = false) :
    trimEnd cs = cs := by
  have hr : trimStart cs.reverse = cs.reverse :=
    trimStart_eq_self (by rw [List.head?_reverse]; exact h)
  rw [trimEnd, show cs.reverse.dropWhile isBlank = cs.reverse from hr, List.reverse_reverse]

theorem getLast?_trimEnd (cs : List Char) : ∀ c ∈ (trimEnd cs).getLast?, isBlank c = false := by
  intro c hc
  rw [trimEnd, List.getLast?_reverse] at hc
  exact head?_trimStart cs.reverse c hc

theorem head?_trimEnd {cs : List Char} (h : ∀ c ∈ cs.head?, isBlank c = false) :
    ∀ c ∈ (trimEnd cs).head?, isBlank c = false := by
  intro c hc
  obtain ⟨rest, hrest⟩ := List.rdropWhile_prefix isBlank (l := cs)
  rw [trimEnd_eq_rdropWhile] at hc
  rw [← hrest] at h
  cases hp : cs.rdropWhile isBlank with
  | nil => simp [hp] at hc
  | cons d ds =>
    rw [hp] at hc h
    exact h c (by simpa using hc)

/-! ### Trimmed texts -/

theorem trimmed_trim (cs : List Char) : Trimmed (trim cs) :=
  ⟨head?_trimEnd (head?_trimStart cs), getLast?_trimEnd _⟩

theorem trim_of_trimmed {cs : List Char} (h : Trimmed cs) : trim cs = cs := by
  rw [trim, trimStart_eq_self h.1, trimEnd_eq_self h.2]

/-- **The fixed points of `trim`.** -/
theorem trim_eq_self_iff {cs : List Char} : trim cs = cs ↔ Trimmed cs := by
  constructor
  · intro h
    rw [← h]
    exact trimmed_trim cs
  · exact trim_of_trimmed

theorem trimmed_of_not_blank {cs : List Char} (h : ∀ c ∈ cs, isBlank c = false) : Trimmed cs :=
  ⟨fun c hc => h c (List.mem_of_mem_head? hc), fun c hc => h c (List.mem_of_mem_getLast? hc)⟩

/-! ### Blanks around a text -/

theorem trim_blank_append {ws : List Char} (h : Blank ws) (cs : List Char) :
    trim (ws ++ cs) = trim cs := by
  rw [trim, trim, trimStart, List.dropWhile_append_of_pos h, ← trimStart]

theorem trimEnd_append_blank {ws : List Char} (h : Blank ws) (cs : List Char) :
    trimEnd (cs ++ ws) = trimEnd cs := by
  rw [trimEnd, List.reverse_append,
    List.dropWhile_append_of_pos (fun c hc => h c (List.mem_reverse.1 hc)), ← trimEnd]

theorem trimEnd_eq_nil_iff {cs : List Char} : trimEnd cs = [] ↔ Blank cs := by
  rw [trimEnd_eq_rdropWhile, List.rdropWhile_eq_nil_iff]
  rfl

theorem trim_eq_nil_iff {cs : List Char} : trim cs = [] ↔ Blank cs := by
  rw [trim, trimEnd_eq_nil_iff]
  constructor
  · -- what `trimStart` leaves begins with a character that is no blank, so it leaves nothing
    intro h
    have hnil : trimStart cs = [] := by
      cases hs : trimStart cs with
      | nil => rfl
      | cons c rest =>
        have hc := head?_trimStart cs c (by rw [hs]; rfl)
        rw [h c (by rw [hs]; exact List.mem_cons_self)] at hc
        exact Bool.noConfusion hc
    intro c hc
    exact List.dropWhile_eq_nil_iff.1 hnil c hc
  · intro h
    rw [trimStart, List.dropWhile_eq_nil_iff.2 h]
    exact blank_nil

theorem trim_append_blank {ws : List Char} (h : Blank ws) (cs : List Char) :
    trim (cs ++ ws) = trim cs := by
  by_cases hcs : Blank cs
  · have hall : Blank (cs ++ ws) := by
      intro c hc
      rcases List.mem_append.1 hc with hc | hc
      · exact hcs c hc
      · exact h c hc
    rw [trim_eq_nil_iff.2 hcs, trim_eq_nil_iff.2 hall]
  · -- some character of `cs` is no blank, so `trimStart` stops inside `cs`
    have hne : ¬ (cs.dropWhile isBlank).isEmpty = true := by
      rw [List.isEmpty_iff, List.dropWhile_eq_nil_iff]
      exact hcs
    rw [trim, trimStart, List.dropWhile_append, if_neg hne, trimEnd_append_blank h, ← trimStart,
      ← trim]

/-- **Blanks around a trimmed text.** -/
theorem trim_between {left cs right : List Char} (hl : Blank left) (h : Trimmed cs)
    (hr : Blank right) : trim (left ++ cs ++ right) = cs := by
  rw [trim_append_blank hr, trim_blank_append hl, trim_of_trimmed h]

theorem exists_blanks_trim (cs : List Char) :
    ∃ left right, Blank left ∧ Blank right ∧ cs = left ++ trim cs ++ right := by
  refine ⟨cs.takeWhile isBlank, (trimStart cs).rtakeWhile isBlank, ?_, ?_, ?_⟩
  · intro c hc
    exact List.mem_takeWhile_imp hc
  · intro c hc
    exact List.mem_rtakeWhile_imp hc
  · rw [List.append_assoc, trim, trimEnd_eq_rdropWhile, List.rdropWhile_append_rtakeWhile,
      trimStart, List.takeWhile_append_dropWhile]

theorem mem_of_mem_trim {cs : List Char} {c : Char} (h : c ∈ trim cs) : c ∈ cs := by
  have h' := (List.rdropWhile_prefix isBlank (l := trimStart cs)).subset h
  exact List.dropWhile_subset isBlank h'

end LibraryCalls.Text
