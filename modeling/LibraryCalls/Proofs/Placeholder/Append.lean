import Mathlib
import LibraryCalls.Proofs.Placeholder.Occurrence

/-!
# Texts behind each other

Substitution goes through two texts behind each other as it goes through each of them, unless the
first one ends in the middle of a placeholder.  That is a matter of its last characters alone, and
then some second text completes the placeholder.

The scan of the first text comes to the same parts whether or not something follows, unless a
placeholder that has begun there is completed behind it.  A text that ends in this way is recognised
by its last dollar sign: behind it stands nothing, or a brace and characters of names.  For each
such text there is a second one that completes the placeholder, so that the condition cannot be
weakened.

From the parts everything else follows, since names, missing names and values of a text are defined
by its parts.

* `EndsUnfinished`: a text that ends with the beginning of a placeholder;
* `pieces_append_iff`: the texts behind which every text is scanned for itself;
* `names_append`, `missing_append`, `fill_append`: names, missing names and values of both texts;
* `substitute_append`: substitution in two texts behind each other.
-/

namespace LibraryCalls.Placeholder

variable {name s : String} {cs u v : List Char}

/-! ### Unfinished ends -/

/-- Whether a text is a beginning of placeholders: a dollar sign, alone or with an opening brace and
characters of names behind it. -/
def isUnfinished : List Char → Bool
  | ['$'] => true
  | '$' :: '{' :: cs => cs.all isNameChar
  | _ => false

/-- A text ends with a beginning of placeholders. -/
def EndsUnfinished (cs : List Char) : Prop :=
  ∃ u, u <:+ cs ∧ isUnfinished u = true

instance (cs : List Char) : Decidable (EndsUnfinished cs) :=
  decidable_of_iff (∃ u ∈ cs.tails, isUnfinished u = true) (by simp [EndsUnfinished])

/-- What a written placeholder begins with is unfinished, unless it is nothing or all of it. -/
theorem isUnfinished_of_append (hname : IsName name) (hwritten : written name = u ++ v)
    (hu : u ≠ [])
    (hv : v ≠ []) : isUnfinished u = true := by
  obtain ⟨v, last, rfl⟩ := (List.eq_nil_or_concat v).resolve_left hv
  have hopening : '$' :: '{' :: name.toList = u ++ v := by
    rw [written, List.concat_eq_append, ← List.append_assoc] at hwritten
    exact (List.append_inj' hwritten rfl).1
  cases u with
  | nil => exact absurd rfl hu
  | cons c u =>
    obtain ⟨rfl, htail⟩ := List.cons.inj hopening
    cases u with
    | nil => rfl
    | cons d u =>
      obtain ⟨rfl, hchars⟩ := List.cons.inj htail
      refine List.all_eq_true.2 fun c hc => hname.2 c ?_
      rw [hchars]
      exact List.mem_append_left v hc

theorem isName_concat (h : ∀ c ∈ cs, isNameChar c = true) :
    IsName (String.ofList (cs ++ ['a'])) := by
  constructor
  · simp [← String.toList_inj]
  · intro c hc
    rw [String.toList_ofList] at hc
    rcases List.mem_append.1 hc with hc | hc
    · exact h c hc
    · rw [List.mem_singleton.1 hc]
      decide

/-- **A beginning of placeholders is completed by some text.** -/
theorem exists_completion (h : isUnfinished u = true) :
    ∃ name v, IsName name ∧ u ++ v = written name := by
  unfold isUnfinished at h
  split at h
  · have hname : IsName (String.ofList ([] ++ ['a'])) := isName_concat (by simp)
    exact ⟨_, ['{', 'a', '}'], hname, by simp [written]⟩
  · rename_i cs
    have hname : IsName (String.ofList (cs ++ ['a'])) := isName_concat (List.all_eq_true.1 h)
    exact ⟨_, ['a', '}'], hname, by simp [written]⟩
  · cases h

theorem brace_not_mem_of_isUnfinished (h : isUnfinished u = true) : '}' ∉ u := by
  unfold isUnfinished at h
  split at h
  · decide
  · rename_i cs
    have hcs : '}' ∉ cs := fun hmem => absurd (List.all_eq_true.1 h _ hmem) (by decide)
    simp [hcs]
  · cases h

/-- The dollar sign of an unfinished placeholder is a character like any other. -/
theorem pieces_of_isUnfinished (h : isUnfinished u = true) :
    ∃ rest, u = '$' :: rest ∧ pieces u = .char '$' :: pieces rest := by
  have hdollar : ∃ rest, u = '$' :: rest := by
    unfold isUnfinished at h
    split at h
    · exact ⟨_, rfl⟩
    · exact ⟨_, rfl⟩
    · cases h
  obtain ⟨rest, rfl⟩ := hdollar
  have hnone : atHead? ('$' :: rest) = none := by
    refine atHead?_eq_none_iff.2 fun name after _ heq => brace_not_mem_of_isUnfinished h ?_
    rw [heq]
    simp [written]
  exact ⟨rest, rfl, pieces_cons_of_atHead?_eq_none hnone⟩

/-- **Texts behind which every text is scanned for itself**: those that do not end in the middle of
a placeholder. -/
theorem pieces_append_iff :
    (∀ t, pieces (cs ++ t) = pieces cs ++ pieces t) ↔ ¬ EndsUnfinished cs := by
  constructor
  · rintro h ⟨u, ⟨front, rfl⟩, hunfinished⟩
    obtain ⟨name, v, hname, hwritten⟩ := exists_completion hunfinished
    obtain ⟨rest, hdollar, hpieces⟩ := pieces_of_isUnfinished hunfinished
    have hapart : pieces (front ++ u) = pieces front ++ pieces u := by
      rw [hdollar]
      exact pieces_append (apart_dollar front rest)
    have hwhole : pieces (front ++ u ++ v) = pieces front ++ [.hole name] := by
      have haround := pieces_around hname front []
      rw [List.append_nil, pieces_nil] at haround
      rw [List.append_assoc, hwritten, haround]
    -- the placeholder is one part of the whole text and none of the first text's
    have hcut := h v
    rw [hwhole, hapart, hpieces, List.append_assoc] at hcut
    exact absurd (List.cons.inj (List.append_cancel_left hcut)).1 (by simp)
  · intro h t
    refine pieces_append fun u hsuffix hne name after hname heq => ?_
    rcases prefix_or_exists_rest heq with hprefix | ⟨c, rest, hwritten, -⟩
    · exact hprefix
    · have hunfinished := isUnfinished_of_append hname hwritten hne (List.cons_ne_nil c rest)
      exact absurd ⟨u, hsuffix, hunfinished⟩ h

/-! ### Substitution -/

theorem fill_append (h : ¬ EndsUnfinished s.toList) (mapping : Assoc String String) (t : String) :
    fill mapping (s ++ t) = fill mapping s ++ fill mapping t := by
  rw [fill, String.toList_append, pieces_append_iff.2 h, List.flatMap_append, String.ofList_append,
    fill, fill]

theorem names_append (h : ¬ EndsUnfinished s.toList) (t : String) :
    names (s ++ t) = names s ++ (names t).filter fun name => name ∉ names s := by
  rw [names, String.toList_append, pieces_append_iff.2 h, List.filterMap_append,
    firstOccurrences_append]
  refine congrArg (names s ++ ·) (List.filter_congr fun name _ => ?_)
  simp only [names, mem_firstOccurrences]

theorem missing_append (h : ¬ EndsUnfinished s.toList) (mapping : Assoc String String)
    (t : String) :
    missing mapping (s ++ t) = (missing mapping s ++ missing mapping t).eraseDups := by
  have hnodup : ∀ text, firstOccurrences (missing mapping text) = missing mapping text := by
    intro text
    rw [missing, firstOccurrences_filter, names,
      firstOccurrences_of_nodup (nodup_firstOccurrences _)]
  rw [← firstOccurrences_eq_eraseDups, firstOccurrences_append, hnodup, hnodup]
  simp only [missing, names_append h, List.filter_append, List.filter_filter]
  refine congrArg ((names s).filter _ ++ ·) (List.filter_congr fun name _ => ?_)
  -- a name without a value is missing in the first text exactly when it stands there
  cases hvalue : mapping.contains name <;> simp [hvalue]

/-- The names that an outcome of substitution reports as missing. -/
def reported : Except Unresolved String → List String
  | .ok _ => []
  | .error e => e.missing

theorem reported_substitute_strict (mapping : Assoc String String) (text : String) :
    reported (substitute .strict mapping text) = missing mapping text := by
  rw [substitute]
  split
  · next h => exact h.symm
  · rfl

theorem exists_substitute_strict_iff :
    (∃ x, substitute .strict mapping s = .ok x) ↔ missing mapping s = [] := by
  rw [substitute]
  split
  · next h => exact iff_of_true ⟨_, rfl⟩ h
  · next h => exact iff_of_false (by rintro ⟨x, hx⟩; cases hx) h

/-- **Substitution in two texts behind each other**, if the first one does not end in the middle of
a placeholder.  The lenient policy gives the results of both behind each other, the names are those
of the first text and the new ones of the second, and the strict policy accepts the texts together
exactly when it accepts each of them, and otherwise reports the missing names of both, each once. -/
theorem substitute_append (h : ¬ EndsUnfinished s.toList) (mapping : Assoc String String)
    (t : String) :
    (∃ x y, substitute .lenient mapping s = .ok x ∧ substitute .lenient mapping t = .ok y ∧
        substitute .lenient mapping (s ++ t) = .ok (x ++ y)) ∧
      names (s ++ t) = names s ++ (names t).filter (fun name => name ∉ names s) ∧
      ((∃ z, substitute .strict mapping (s ++ t) = .ok z) ↔
        (∃ x, substitute .strict mapping s = .ok x) ∧
          ∃ y, substitute .strict mapping t = .ok y) ∧
      reported (substitute .strict mapping (s ++ t))
        = (reported (substitute .strict mapping s)
            ++ reported (substitute .strict mapping t)).eraseDups := by
  have hmissing := missing_append h mapping t
  refine ⟨⟨_, _, rfl, rfl, ?_⟩, names_append h t, ?_, ?_⟩
  · rw [substitute, fill_append h]
  · rw [exists_substitute_strict_iff, exists_substitute_strict_iff, exists_substitute_strict_iff,
      hmissing, ← firstOccurrences_eq_eraseDups]
    simp [List.eq_nil_iff_forall_not_mem, mem_firstOccurrences, not_or, forall_and]
  · rw [reported_substitute_strict, reported_substitute_strict, reported_substitute_strict,
      hmissing]

/-- A dollar sign with a letter behind it is not the middle of a placeholder; two texts with a name
in common. -/
theorem substitute_append_common :
    let s := "$\x7ba\x7d$\x7bb\x7d$a"
    let t := "$\x7bc\x7d$\x7bb\x7d"
    ¬ EndsUnfinished s.toList ∧
      substitute .lenient [("a", "1")] (s ++ t) = .ok "1$\x7bb\x7d$a$\x7bc\x7d$\x7bb\x7d" ∧
      names (s ++ t) = ["a", "b", "c"] ∧
      reported (substitute .strict [("a", "1")] (s ++ t)) = ["b", "c"] := by
  intro s t
  have hend : ¬ EndsUnfinished s.toList := by decide
  obtain ⟨⟨x, y, hx, hy, hboth⟩, hnames, -, hstrict⟩ := substitute_append hend [("a", "1")] t
  have hs : substitute .lenient [("a", "1")] s = .ok "1$\x7bb\x7d$a" := by cbv
  have ht : substitute .lenient [("a", "1")] t = .ok t := by cbv
  obtain rfl : "1$\x7bb\x7d$a" = x := Except.ok.inj (hs.symm.trans hx)
  obtain rfl : t = y := Except.ok.inj (ht.symm.trans hy)
  refine ⟨hend, hboth, ?_, ?_⟩
  · have hs : names s = ["a", "b"] := by cbv
    have ht : names t = ["c", "b"] := by cbv
    rw [hnames, hs, ht]
    decide
  · have hs : reported (substitute .strict [("a", "1")] s) = ["b"] := by cbv
    have ht : reported (substitute .strict [("a", "1")] t) = ["c", "b"] := by cbv
    rw [hstrict, hs, ht]
    decide

end LibraryCalls.Placeholder
