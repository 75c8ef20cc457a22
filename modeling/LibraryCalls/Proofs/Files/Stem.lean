import LibraryCalls.Files.Path
import LibraryCalls.Proofs.Text.Parts
import LibraryCalls.Settings.Basic
import Mathlib.Data.String.Basic

/-!
# Stems and extensions

The stem of a file name is what stands before its last dot, and a name with an extension is a name
before a dot and the extension.  The two undo each other only if the extension holds no dot and
something stands before it.

A dot at the beginning or at the end of a name does not count, so that a name like `.json` is its
own stem, and one that is nothing but an extension behind a dot shares its stem with the name in
which the extension is written twice.  This is the only way in which two different names with one
extension can have one stem, provided that the extension holds no dot.

An extension with dots of its own is cut at the last of them, and then the stem never leads back.

* `Path.stem_of_not_mem`, `Path.stem_of_mem`: the stem of a name with an extension;
* `Settings.fileName_stem_eq_iff`: when a stem leads back to the name;
* `Settings.stem_eq_stem_iff`: the names with the same stem.
-/

namespace LibraryCalls

open Text

variable {name other : String} {front ext : List Char}

namespace Path

/-- The stem of a name with an extension without dots: what stands before, or else all of it. -/
theorem stem_of_not_mem (hname : name.toList = front ++ '.' :: ext) (hdot : '.' ∉ ext)
    (hne : ext ≠ []) : stem name = if front = [] then name else String.ofList front := by
  have hpass : ∀ c ∈ ext.reverse, decide (c ≠ '.') = true :=
    fun c hc => decide_eq_true fun heq => hdot (heq ▸ List.mem_reverse.1 hc)
  have hback : name.toList.reverse = ext.reverse ++ '.' :: front.reverse := by
    rw [hname, List.reverse_append, List.reverse_cons, List.append_assoc]
    rfl
  have hdrop : name.toList.reverse.dropWhile (· ≠ '.') = '.' :: front.reverse := by
    rw [hback, List.dropWhile_append_of_pos hpass]
    simp
  have hhead : name.toList.reverse.head? ≠ some '.' := by
    obtain ⟨c, cs, hcs⟩ := List.exists_cons_of_ne_nil (mt List.reverse_eq_nil_iff.1 hne)
    have hc : c ≠ '.' := of_decide_eq_true (hpass c (hcs ▸ List.mem_cons_self))
    simp [hback, hcs, hc]
  simp only [stem, hdrop, hhead, or_false, List.reverse_eq_nil_iff, List.reverse_reverse]

theorem stem_of_dot_last (hname : name.toList = front ++ ['.']) : stem name = name := by
  have hback : name.toList.reverse = '.' :: front.reverse := by
    rw [hname, List.reverse_append]
    rfl
  simp [stem, hback]

/-- An extension with a dot is cut at its last one, whatever stands before it. -/
theorem stem_of_mem (hdot : '.' ∈ ext) :
    ∃ kept, ∀ (name : String) (front : List Char), name.toList = front ++ '.' :: ext →
      (stem name).toList = front ++ '.' :: kept := by
  cases hcut : cutLast '.' ext with
  | none => exact absurd hdot (cutLast_eq_none_iff.1 hcut)
  | some p =>
    obtain ⟨hext, hlast⟩ := cutLast_eq_some_iff.1 (show _ = some (p.1, p.2) from hcut)
    by_cases hnil : p.2 = []
    · refine ⟨ext, fun name front hname => ?_⟩
      have hend : name.toList = (front ++ '.' :: p.1) ++ ['.'] := by
        rw [hname, hext, hnil, List.append_assoc]
        rfl
      rw [stem_of_dot_last hend, hname]
    · refine ⟨p.1, fun name front hname => ?_⟩
      have hsplit : name.toList = (front ++ '.' :: p.1) ++ '.' :: p.2 := by
        rw [hname, hext, List.append_assoc]
        rfl
      rw [stem_of_not_mem hsplit hlast hnil, if_neg (by simp), String.toList_ofList]

theorem exists_ending (name : String) :
    ∃ ending, name.toList = (stem name).toList ++ ending ∧ ∀ c ∈ ending.head?, c = '.' := by
  have hwhole : ∃ ending, name.toList = name.toList ++ ending ∧ ∀ c ∈ ending.head?, c = '.' :=
    ⟨[], (List.append_nil _).symm, by simp⟩
  simp only [stem]
  split
  · next before hback =>
    split
    · exact hwhole
    · have hsplit := List.takeWhile_append_dropWhile (p := (· ≠ '.')) (l := name.toList.reverse)
      rw [hback] at hsplit
      refine ⟨'.' :: (name.toList.reverse.takeWhile (· ≠ '.')).reverse, ?_, by simp⟩
      rw [String.toList_ofList]
      calc name.toList
          = (name.toList.reverse.takeWhile (· ≠ '.') ++ '.' :: before).reverse := by
            rw [hsplit, List.reverse_reverse]
        _ = before.reverse ++ '.' :: (name.toList.reverse.takeWhile (· ≠ '.')).reverse := by
            rw [List.reverse_append, List.reverse_cons, List.append_assoc, List.singleton_append]
  · exact hwhole

theorem mem_of_mem_stem {c : Char} (h : c ∈ (stem name).toList) : c ∈ name.toList := by
  obtain ⟨ending, hname, -⟩ := exists_ending name
  rw [hname]
  exact List.mem_append_left ending h

end Path

namespace Settings

variable {settings : Settings}

theorem toList_fileName (settings : Settings) (library : String) :
    (settings.fileName library).toList = library.toList ++ '.' :: settings.extension.toList := by
  rw [fileName, String.toList_append, String.toList_append, List.append_assoc]
  rfl

theorem exists_fileName_of_suffix (h : '.' :: settings.extension.toList <:+ name.toList) :
    ∃ library, name = settings.fileName library := by
  obtain ⟨front, hfront⟩ := h
  refine ⟨String.ofList front, String.toList_inj.1 ?_⟩
  rw [toList_fileName, String.toList_ofList, hfront]

theorem mem_fileName {library : String} {c : Char} :
    c ∈ (settings.fileName library).toList ↔
      c ∈ library.toList ∨ c = '.' ∨ c ∈ settings.extension.toList := by
  rw [toList_fileName, List.mem_append, List.mem_cons]

theorem fileName_inj {library library' : String}
    (h : settings.fileName library = settings.fileName library') : library = library' := by
  have hchars := congrArg String.toList h
  rw [toList_fileName, toList_fileName, List.append_left_inj] at hchars
  exact String.toList_inj.1 hchars

/-- The stem of a descriptor file's name, if the extension holds no dot. -/
theorem stem_fileName (hne : settings.extension ≠ "") (hdot : '.' ∉ settings.extension.toList)
    (library : String) :
    Path.stem (settings.fileName library)
      = if library = "" then settings.fileName "" else library := by
  have hext : settings.extension.toList ≠ [] := fun h => hne (String.toList_eq_nil_iff.1 h)
  rw [Path.stem_of_not_mem (toList_fileName settings library) hdot hext,
    String.ofList_toList]
  by_cases hlib : library = ""
  · rw [if_pos (by simp [hlib]), if_pos hlib, hlib]
  · rw [if_neg (mt String.toList_eq_nil_iff.1 hlib), if_neg hlib]

/-- The extension written twice comes after the bare one. -/
theorem fileName_lt_fileName (settings : Settings) :
    settings.fileName "" < settings.fileName (settings.fileName "") := by
  have hlt : ∀ (cs : List Char) (c : Char) (rest : List Char), cs < cs ++ c :: rest := by
    intro cs c rest
    induction cs with
    | nil => exact List.nil_lt_cons c rest
    | cons d cs ih => exact List.cons_lt_cons_self.2 ih
  rw [String.lt_iff_toList_lt, toList_fileName settings (settings.fileName "")]
  exact hlt _ _ _

/-- **A stem leads back to the name** exactly when the extension holds no dot and something stands
before it. -/
theorem fileName_stem_eq_iff (hne : settings.extension ≠ "") (library : String) :
    settings.fileName (Path.stem (settings.fileName library)) = settings.fileName library ↔
      '.' ∉ settings.extension.toList ∧ library ≠ "" := by
  by_cases hdot : '.' ∈ settings.extension.toList
  · refine ⟨fun h => ?_, fun h => absurd hdot h.1⟩
    obtain ⟨kept, hkept⟩ := Path.stem_of_mem hdot
    have hstem := hkept _ library.toList (toList_fileName settings library)
    rw [fileName_inj h] at hstem
    have hlength := congrArg List.length hstem
    simp at hlength
  · rw [stem_fileName hne hdot]
    refine ⟨fun h => ⟨hdot, fun hlib => ?_⟩, fun h => by rw [if_neg h.2]⟩
    have hbare := fileName_inj h
    rw [if_pos hlib, hlib] at hbare
    have hlength := congrArg (fun s => s.toList.length) hbare
    simp [toList_fileName] at hlength

/-- **The names with the same stem**: with an extension without dots, the bare extension shares its
stem with the extension written twice. -/
theorem stem_eq_stem_iff (hne : settings.extension ≠ "") (library library' : String) :
    Path.stem (settings.fileName library) = Path.stem (settings.fileName library') ↔
      library = library' ∨ '.' ∉ settings.extension.toList ∧
        (library = "" ∧ library' = settings.fileName "" ∨
          library' = "" ∧ library = settings.fileName "") := by
  by_cases hdot : '.' ∈ settings.extension.toList
  · obtain ⟨kept, hkept⟩ := Path.stem_of_mem hdot
    have hstem := hkept _ library.toList (toList_fileName settings library)
    have hstem' := hkept _ library'.toList (toList_fileName settings library')
    refine ⟨fun h => .inl ?_, fun h => ?_⟩
    · rw [h, hstem', List.append_left_inj] at hstem
      exact (String.toList_inj.1 hstem).symm
    · rw [h.resolve_right fun hno => hno.1 hdot]
  · rw [stem_fileName hne hdot, stem_fileName hne hdot]
    by_cases hlib : library = ""
    · by_cases hlib' : library' = ""
      · simp [hlib, hlib']
      · rw [if_pos hlib, if_neg hlib', hlib]
        refine ⟨fun h => .inr ⟨hdot, .inl ⟨rfl, h.symm⟩⟩, ?_⟩
        rintro (h | ⟨-, ⟨-, h⟩ | ⟨h, -⟩⟩)
        · exact absurd h.symm hlib'
        · exact h.symm
        · exact absurd h hlib'
    · by_cases hlib' : library' = ""
      · simp [hlib, hlib', hdot]
      · simp [hlib, hlib']

end Settings

end LibraryCalls
