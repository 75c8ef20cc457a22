import LibraryCalls.Files.Tree
import LibraryCalls.Proofs.Text.Parts

/-!
# Walks along paths

A name without slashes is a path of one name.  A walk along a path that goes on behind another one
is a walk along that one and another walk from where it ends; if a single name is left, that is a
step to a child of a directory.  Besides, a path can be looked up only if its text is short enough
and holds no NUL character, and then the same holds for every path that it goes on from.

A walk that gets through has looked up every entry on its way, and so it can be cut anywhere: the
first part is a walk to a place, and the second one a walk from that place.  A read is a walk and a
look at what stands at its end, which has to be a file whose octets are a text.

These lemmas keep the theory of descriptors and of writing apart from the definition of walks.  They
say when a look-up succeeds and what it gives, and leave open why it fails.

* `Path.ofString_of_not_mem`: the path of a text without slashes;
* `FileTree.walkFrom_append`, `FileTree.walk_append`: walks in two parts;
* `FileTree.readText_eq_ok_iff`: what is read.
-/

namespace LibraryCalls

open Text

theorem mapError_eq_ok_iff {ε ε' α : Type} {x : Except ε α} {f : ε → ε'} {a : α} :
    x.mapError f = .ok a ↔ x = .ok a := by
  cases x with
  | error e => exact ⟨fun h => (by cases h), fun h => (by cases h)⟩
  | ok b => exact ⟨fun h => congrArg _ (Except.ok.inj h), fun h => congrArg _ (Except.ok.inj h)⟩

/-! ### Paths -/

namespace Path

/-- **A text without slashes** is a path of one name, unless it is empty or a dot. -/
theorem ofString_of_not_mem {text : String} (hslash : '/' ∉ text.toList) (hne : text ≠ "")
    (hdot : text ≠ ".") : ofString text = ⟨[], [text]⟩ := by
  have hnil : text.toList ≠ [] := fun h => hne (String.toList_eq_nil_iff.1 h)
  have hone : text.toList ≠ ['.'] := fun h => hdot (by rw [← String.ofList_toList (s := text), h])
  have hanchor : text.toList.takeWhile (· = '/') = [] := by
    obtain ⟨c, cs, hcs⟩ := List.exists_cons_of_ne_nil hnil
    rw [hcs] at hslash ⊢
    simp [show c ≠ '/' from fun h => hslash (h ▸ List.mem_cons_self)]
  simp only [ofString, hanchor, splitOn_of_not_mem hslash]
  simp [hnil, hone, anchorOf]

/-- The text of a path begins with that of the path that it continues, unless that is a dot. -/
theorem toString_append (anchor : List Char) (names more : List String) :
    Path.toString ⟨anchor, names⟩ = "." ∨
      ∃ rest, Path.toString ⟨anchor, names ++ more⟩ = Path.toString ⟨anchor, names⟩ ++ rest := by
  by_cases hempty : anchor = [] ∧ names = []
  · exact .inl (by simp [Path.toString, hempty])
  · refine .inr ?_
    have hlong : ¬ (anchor = [] ∧ names ++ more = []) := fun h =>
      hempty ⟨h.1, (List.append_eq_nil_iff.1 h.2).1⟩
    simp only [Path.toString, if_neg hempty, if_neg hlong, List.map_append]
    by_cases hmore : more = []
    · exact ⟨"", by simp [hmore]⟩
    · by_cases hnames : names = []
      · refine ⟨String.ofList (joinWith '/' (more.map String.toList)), ?_⟩
        rw [hnames, ← String.ofList_append]
        simp [joinWith]
      · refine ⟨String.ofList ('/' :: joinWith '/' (more.map String.toList)), ?_⟩
        rw [joinWith_append (by simpa using hnames) (by simpa using hmore), ← List.append_assoc,
          String.ofList_append]

end Path

/-! ### Walks -/

namespace FileTree

variable {t : FileTree} {path : Path} {place : Place}

/-- A walk along two rows of names. -/
theorem walkFrom_append (t : FileTree) (start : Place) (names more : List String) :
    t.walkFrom start (names ++ more) = (t.walkFrom start names).bind (t.walkFrom · more) := by
  induction names generalizing start with
  | nil => rfl
  | cons name rest ih =>
    simp only [List.cons_append, walkFrom]
    split
    · rfl
    · rfl
    · split
      · exact ih _
      · split
        · rfl
        · split
          · rfl
          · exact ih _

/-- A walk along a path is one along its names, if the text of the path can be looked up. -/
theorem walk_eq_ok_iff :
    t.walk path = .ok place ↔
      '\x00' ∉ path.toString.toList ∧ path.toString.utf8ByteSize ≤ maxPath ∧
        t.walkFrom (t.start path) path.names = .ok place := by
  rw [walk]
  split
  · next h => exact ⟨fun h => (by cases h), fun hp => absurd (List.contains_iff_mem.1 h) hp.1⟩
  · next hnull =>
    have hnull' : '\x00' ∉ path.toString.toList := fun h => hnull (List.contains_iff_mem.2 h)
    split
    · next hlong => exact ⟨fun h => (by cases h), fun hp => absurd hp.2.1 (by omega)⟩
    · next hlong => exact ⟨fun h => ⟨hnull', by omega, h⟩, fun h => h.2.2⟩

/-- **A walk along a path that goes on** is a walk along the path and one from there. -/
theorem walk_append {anchor : List Char} {names more : List String}
    (h : t.walk ⟨anchor, names ++ more⟩ = .ok place) :
    ∃ here, t.walk ⟨anchor, names⟩ = .ok here ∧ t.walkFrom here more = .ok place := by
  obtain ⟨hnull, hlong, hwalk⟩ := walk_eq_ok_iff.1 h
  have hstart : t.start ⟨anchor, names ++ more⟩ = t.start ⟨anchor, names⟩ := rfl
  rw [walkFrom_append, hstart] at hwalk
  obtain ⟨here, hhere, hmore⟩ : ∃ here, t.walkFrom (t.start ⟨anchor, names⟩) names = .ok here ∧
      t.walkFrom here more = .ok place := by
    cases hnames : t.walkFrom (t.start ⟨anchor, names⟩) names with
    | error e =>
      rw [hnames] at hwalk
      cases hwalk
    | ok here =>
      rw [hnames] at hwalk
      exact ⟨here, rfl, hwalk⟩
  refine ⟨here, walk_eq_ok_iff.2 ⟨?_, ?_, hhere⟩, hmore⟩
  · rcases Path.toString_append anchor names more with hdot | ⟨rest, hrest⟩
    · rw [hdot]
      decide
    · rw [hrest, String.toList_append] at hnull
      exact fun hmem => hnull (List.mem_append_left _ hmem)
  · rcases Path.toString_append anchor names more with hdot | ⟨rest, hrest⟩
    · rw [hdot]
      decide
    · rw [hrest, String.utf8ByteSize_append] at hlong
      omega

theorem read_eq_ok_iff {content : Octets} :
    t.read path = .ok content ↔
      ∃ place, t.walk path = .ok place ∧ t.get? place = some (.file content) := by
  rw [read]
  cases hwalk : t.walk path with
  | error e => simp
  | ok place =>
    simp only [Except.ok.injEq, exists_eq_left']
    cases hentry : t.get? place with
    | none => simp
    | some entry => cases entry <;> simp

/-- **What is read** is the text of the file to which the path leads. -/
theorem readText_eq_ok_iff {text : String} :
    t.readText path = .ok text ↔
      ∃ place content, t.walk path = .ok place ∧ t.get? place = some (.file content) ∧
        decodeFile content = .ok text := by
  have hread : t.readText path = .ok text ↔
      ∃ content, t.read path = .ok content ∧ decodeFile content = .ok text := by
    rw [readText]
    cases t.read path with
    | error e => simp
    | ok content => simp only [mapError_eq_ok_iff, Except.ok.injEq, exists_eq_left']
  simp only [hread, read_eq_ok_iff]
  exact ⟨fun ⟨content, ⟨place, hp⟩, htext⟩ => ⟨place, content, hp.1, hp.2, htext⟩,
    fun ⟨place, content, hwalk, hfile, htext⟩ => ⟨content, ⟨place, hwalk, hfile⟩, htext⟩⟩

end FileTree

end LibraryCalls
