import LibraryCalls.Files.Selection
import LibraryCalls.Proofs.Files.Walk
import Mathlib.Data.List.Infix
import Mathlib.Data.String.Basic

/-!
# The files with an extension

A star, a dot and an extension without marks stand for the names that end in the dot and the
extension.  The files of a directory with such names are selected in order.

The pattern with a star in front is matched against a name by trying the ends of the name; exactly
one of them can be the dot and the extension.  For this the extension must hold no mark of a
pattern, or else it stands for more than itself.

Selecting in a directory gives the entries whose names fit, each once, and sorts them by their last
name only, as the paths agree in all the others.  A directory that is missing has an empty
selection, which callers cannot tell from a directory without such files; nor do they have to.

The order of rows of names is total and transitive, which is what sorting needs.

* `Pattern.fits_ofText_star`: the names that the pattern stands for;
* `FileTree.comesBefore_trans`, `FileTree.comesBefore_total`: the order of rows of names;
* `FileTree.select_star`: the selected paths.
-/

namespace LibraryCalls

open Text

/-! ### Patterns -/

/-- A text in which no character has a meaning of its own in a pattern of names. -/
def IsPlain (cs : List Char) : Prop :=
  ∀ c ∈ cs, c ≠ '*' ∧ c ≠ '?' ∧ c ≠ '[' ∧ c ≠ '/'

namespace Pattern

theorem holds_single (c d : Char) : (CharSet.single c).holds d = true ↔ d = c := by
  simp [CharSet.single, CharSet.holds]

/-- A plain text is a pattern that stands for itself. -/
theorem piecesFrom_plain {cs : List Char} (h : IsPlain cs) :
    piecesFrom 0 cs = cs.map fun c => .one (.single c) := by
  induction cs with
  | nil => rfl
  | cons c cs ih =>
    obtain ⟨hstar, hmark, hbracket, -⟩ := h c List.mem_cons_self
    have hrest := ih fun d hd => h d (List.mem_cons_of_mem c hd)
    simp [piecesFrom, hstar, hmark, hbracket, hrest]

theorem fits_singles {cs name : List Char} :
    fits (cs.map fun c => .one (.single c)) name = true ↔ name = cs := by
  induction cs generalizing name with
  | nil => simp [fits]
  | cons c cs ih =>
    cases name with
    | nil => simp [fits]
    | cons d name => simp [fits, holds_single, ih]

theorem mem_ends {cs tail : List Char} : tail ∈ ends cs ↔ tail <:+ cs := by
  induction cs with
  | nil => simp [ends]
  | cons c cs ih => rw [ends, List.mem_cons, ih, List.suffix_cons_iff]

/-- **A star and a plain text** stand for the names that end in the text. -/
theorem fits_ofText_star {cs name : List Char} (h : IsPlain cs) :
    fits (ofText ('*' :: cs)) name = true ↔ cs <:+ name := by
  have hpieces : ofText ('*' :: cs) = .any :: cs.map fun c => .one (.single c) := by
    simp [ofText, piecesFrom, piecesFrom_plain h]
  simp [hpieces, fits, List.any_eq_true, mem_ends, fits_singles]

end Pattern

theorem Selection.hasTwoStars_cons {c : Char} {cs : List Char} (h : '*' ∉ cs) :
    hasTwoStars (c :: cs) = false := by
  induction cs generalizing c with
  | nil => simp [hasTwoStars]
  | cons d cs ih =>
    rw [List.mem_cons, not_or] at h
    rw [hasTwoStars, ih h.2]
    rintro cs' - heq
    exact h.1 (List.cons.inj heq).1.symm

/-- A text without slashes is a single step. -/
theorem Selection.ofText_of_not_mem {text : String} (hslash : '/' ∉ text.toList)
    (hempty : text ≠ "") (hdot : text ≠ ".") :
    Selection.ofText text = (Selection.step text).map fun s => ⟨[s], false⟩ := by
  have hlast : text.toList.getLast? ≠ some '/' := fun hmem => hslash (List.mem_of_getLast? hmem)
  simp only [ofText, Path.ofString_of_not_mem hslash hempty hdot, List.mapM_cons, List.mapM_nil,
    hlast]
  cases step text <;> rfl

/-- The selection of a star, a dot and an extension: the entries of a directory, unless there are
two stars next to each other. -/
theorem Selection.ofText_extension {extension : String} (h : '/' ∉ extension.toList) :
    Selection.ofText ("*." ++ extension) =
      if hasTwoStars ('*' :: '.' :: extension.toList) then .error .starsInName
      else .ok ⟨[.matching (Pattern.ofText ('*' :: '.' :: extension.toList))], false⟩ := by
  have hlist : ("*." ++ extension).toList = '*' :: '.' :: extension.toList := by
    rw [String.toList_append]
    rfl
  have hslash : '/' ∉ ("*." ++ extension).toList := by
    rw [hlist]
    simp only [List.mem_cons, not_or]
    exact ⟨by decide, by decide, h⟩
  have hne : ∀ other : String, other.toList.length < 2 → "*." ++ extension ≠ other := by
    rintro other hlen rfl
    simp only [hlist, List.length_cons] at hlen
    omega
  have hstars : "*." ++ extension ≠ "**" := by
    intro heq
    have hchars := congrArg String.toList heq
    rw [hlist] at hchars
    exact absurd (List.cons.inj (List.cons.inj hchars).2).1 (by decide)
  rw [Selection.ofText_of_not_mem hslash (hne "" (by decide)) (hne "." (by decide))]
  simp only [step, hstars, if_false, hlist, List.any_cons, decide_true, Bool.true_or, if_true]
  split <;> rfl

/-- The selection of a star, a dot and a plain text. -/
theorem Selection.ofText_star {extension : String} (h : IsPlain extension.toList) :
    Selection.ofText ("*." ++ extension)
      = .ok ⟨[.matching (Pattern.ofText ('*' :: '.' :: extension.toList))], false⟩ := by
  have htwo : hasTwoStars ('*' :: '.' :: extension.toList) = false := by
    refine hasTwoStars_cons ?_
    simp only [List.mem_cons, not_or]
    exact ⟨by decide, fun hmem => (h _ hmem).1 rfl⟩
  rw [Selection.ofText_extension fun hmem => (h _ hmem).2.2.2 rfl, htwo]
  rfl

/-! ### Order -/

namespace FileTree

theorem comesBefore_trans {as bs cs : List String} (hab : comesBefore as bs = true)
    (hbc : comesBefore bs cs = true) : comesBefore as cs = true := by
  induction as generalizing bs cs with
  | nil => rfl
  | cons a as ih =>
    cases bs with
    | nil => simp [comesBefore] at hab
    | cons b bs =>
      cases cs with
      | nil => simp [comesBefore] at hbc
      | cons c cs =>
        simp only [comesBefore] at hab hbc ⊢
        by_cases hab' : a = b
        · subst hab'
          by_cases hac : a = c
          · rw [if_pos rfl] at hab
            rw [if_pos hac] at hbc ⊢
            exact ih hab hbc
          · rwa [if_neg hac] at hbc ⊢
        · rw [if_neg hab', decide_eq_true_eq] at hab
          by_cases hbc' : b = c
          · subst hbc'
            rw [if_neg hab', decide_eq_true_eq]
            exact hab
          · rw [if_neg hbc', decide_eq_true_eq] at hbc
            have hac := lt_trans hab hbc
            rw [if_neg hac.ne, decide_eq_true_eq]
            exact hac

theorem comesBefore_total (as bs : List String) :
    (comesBefore as bs || comesBefore bs as) = true := by
  induction as generalizing bs with
  | nil => rfl
  | cons a as ih =>
    cases bs with
    | nil => rfl
    | cons b bs =>
      simp only [comesBefore]
      rcases lt_trichotomy a b with h | rfl | h
      · simp [h.ne, h]
      · simpa using ih bs
      · simp [h.ne, h.ne', h]

theorem comesBefore_snoc {names : List String} {a b : String} :
    comesBefore (names ++ [a]) (names ++ [b]) = true ↔ a ≤ b := by
  induction names with
  | nil =>
    simp only [List.nil_append, comesBefore]
    split
    · next h => simp [h]
    · next h =>
      rw [decide_eq_true_eq]
      exact ⟨le_of_lt, fun hle => lt_of_le_of_ne hle h⟩
  | cons name names ih => simpa only [List.cons_append, comesBefore, if_true] using ih

/-! ### Selected files -/

variable {t : FileTree} {directory : Path} {extension : String} {paths : List Path}

/-- The names of the files in a directory that end in a dot and an extension. -/
def namesWith (t : FileTree) (directory : Path) (extension : String) : List String :=
  (t.children directory).filter fun name => ('.' :: extension.toList).isSuffixOf name.toList

theorem mem_namesWith {name : String} :
    name ∈ t.namesWith directory extension ↔
      name ∈ t.children directory ∧ '.' :: extension.toList <:+ name.toList := by
  rw [namesWith, List.mem_filter, List.isSuffixOf_iff_suffix]

theorem children_eq_nil (h : t.leadsToDirectory directory = .ok false) :
    t.children directory = [] := by
  simp only [leadsToDirectory, look] at h
  rw [children]
  cases hwalk : t.walk directory with
  | error e => rfl
  | ok place =>
    rw [hwalk] at h
    have hno : t.get? place ≠ some .directory := by simpa [Except.map] using h
    -- what leads elsewhere than to a directory has no entries
    simp only

theorem mapM_selectFrom_nil (t : FileTree) (directoriesOnly : Bool) (paths : List Path) :
    paths.mapM (t.selectFrom directoriesOnly []) = .ok (paths.map fun path => [path]) := by
  induction paths with
  | nil => rfl
  | cons path rest ih =>
    rw [List.mapM_cons, ih]
    rfl

/-- A single step to the entries that a pattern stands for. -/
theorem selectFrom_matching (t : FileTree) (pattern : List Pattern.Piece) (path : Path) :
    t.selectFrom false [.matching pattern] path
      = .ok (((t.children path).filter fun name => Pattern.fits pattern name.toList).map
          (below path)).eraseDups := by
  rw [selectFrom]
  simp only [ne_eq, not_true_eq_false, decide_false, Bool.or_self, Bool.false_eq_true, if_false,
    bind, Except.bind, mapM_selectFrom_nil]
  rw [← List.flatMap_def, List.flatMap_singleton']

/-- The paths that are found, in order, are what is selected. -/
theorem select_eq_ok {text : String} {selection : Selection}
    (htext : Selection.ofText text = .ok selection)
    (hthere : t.leadsToDirectory directory = .ok true)
    (hfound : t.selectFrom selection.directoriesOnly selection.steps directory = .ok paths)
    (hsorted : paths.Pairwise fun p q => comesBefore p.names q.names = true) :
    t.select directory text = .ok paths := by
  simp only [select, htext, hthere, hfound, bind, Except.bind, Except.mapError, Bool.not_true,
    Bool.false_eq_true, if_false, Except.ok.injEq]
  exact List.mergeSort_of_pairwise hsorted

/-- What is selected is nothing where there is no directory, and otherwise what is found, in order.
-/
theorem select_cases {text : String} (h : t.select directory text = .ok paths) :
    (t.leadsToDirectory directory = .ok false ∧ paths = []) ∨
      ∃ selection found, Selection.ofText text = .ok selection ∧
        t.selectFrom selection.directoriesOnly selection.steps directory = .ok found ∧
        paths = found.mergeSort fun p q => comesBefore p.names q.names := by
  rw [select] at h
  cases htext : Selection.ofText text with
  | error e =>
    rw [htext] at h
    cases h
  | ok selection =>
    simp only [htext, bind, Except.bind] at h
    cases hthere : t.leadsToDirectory directory with
    | error e =>
      rw [hthere] at h
      cases h
    | ok isThere =>
      simp only [hthere, Except.mapError] at h
      cases isThere with
      | false => exact .inl ⟨rfl, (Except.ok.inj h).symm⟩
      | true =>
        cases hfound : t.selectFrom selection.directoriesOnly selection.steps directory with
        | error e =>
          rw [hfound] at h
          cases h
        | ok found =>
          rw [hfound] at h
          exact .inr ⟨selection, found, rfl, hfound, (Except.ok.inj h).symm⟩

theorem select_pairwise {text : String} (h : t.select directory text = .ok paths) :
    paths.Pairwise fun p q => comesBefore p.names q.names = true := by
  rcases select_cases h with ⟨-, rfl⟩ | ⟨selection, found, -, -, rfl⟩
  · exact List.Pairwise.nil
  · refine List.pairwise_mergeSort ?_ ?_ _
    · exact fun _ _ _ => comesBefore_trans
    · exact fun p q => comesBefore_total p.names q.names

/-- An extension without slashes selects entries of the directory. -/
theorem select_below (hslash : '/' ∉ extension.toList)
    (h : t.select directory ("*." ++ extension) = .ok paths) :
    ∀ path ∈ paths, ∃ name, path = below directory name := by
  rcases select_cases h with ⟨-, rfl⟩ | ⟨selection, found, htext, hfound, rfl⟩
  · exact fun _ hpath => absurd hpath List.not_mem_nil
  · rw [Selection.ofText_extension hslash] at htext
    split at htext
    · cases htext
    · rw [← Except.ok.inj htext, selectFrom_matching] at hfound
      intro path hpath
      rw [List.mem_mergeSort, ← Except.ok.inj hfound, List.mem_eraseDups, List.mem_map] at hpath
      obtain ⟨name, -, hname⟩ := hpath
      exact ⟨name, hname.symm⟩

/-- The entries that a star, a dot and an extension stand for. -/
theorem filter_fits_star (hplain : IsPlain extension.toList) :
    (t.children directory).filter (fun name =>
        Pattern.fits (Pattern.ofText ('*' :: '.' :: extension.toList)) name.toList)
      = t.namesWith directory extension := by
  have hplain' : IsPlain ('.' :: extension.toList) := by
    intro c hc
    rcases List.mem_cons.1 hc with rfl | hc
    · decide
    · exact hplain c hc
  refine List.filter_congr fun name _ => ?_
  rw [Bool.eq_iff_iff, Pattern.fits_ofText_star hplain', List.isSuffixOf_iff_suffix]

/-- **The selected paths** lead to the files with the extension, in order. -/
theorem select_star (hplain : IsPlain extension.toList)
    (h : t.select directory ("*." ++ extension) = .ok paths) :
    (∀ path, path ∈ paths ↔ ∃ name ∈ t.namesWith directory extension, path = below directory name) ∧
      paths.Pairwise fun p q => comesBefore p.names q.names = true := by
  refine ⟨fun path => ?_, select_pairwise h⟩
  rcases select_cases h with ⟨hthere, rfl⟩ | ⟨selection, found, htext, hfound, rfl⟩
  · simp [namesWith, children_eq_nil hthere]
  · rw [Selection.ofText_star hplain] at htext
    rw [← Except.ok.inj htext, selectFrom_matching, filter_fits_star hplain] at hfound
    rw [List.mem_mergeSort, ← Except.ok.inj hfound, List.mem_eraseDups, List.mem_map]
    exact ⟨fun ⟨name, hn, hp⟩ => ⟨name, hn, hp.symm⟩, fun ⟨name, hn, hp⟩ => ⟨name, hn, hp.symm⟩⟩

end FileTree

end LibraryCalls
