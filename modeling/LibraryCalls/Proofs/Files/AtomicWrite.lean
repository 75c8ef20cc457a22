import LibraryCalls.Files.AtomicWrite
import LibraryCalls.Proofs.Assoc
import LibraryCalls.Proofs.Files.Walk
import Mathlib.Data.List.Nodup
import Mathlib.Data.List.Perm.Subperm

/-!
# Writes are all or nothing

A write that succeeds leaves the text at its target, and a write that fails leaves the target as it
was, whichever of its steps fails.  Either way no other file is touched and no temporary file stays;
all that may be left is directories on the way to the target.

The frame is stated for every place of the tree: a place is as it was, or it is a new directory on
the way to the target, or it is the target after a success.  For the directories this is an
invariant of making them one by one; for the temporary file it follows from its name being free and
from its removal or replacement at the end of every branch.

Failures from outside strike at any step and are part of the statement as a parameter, so that the
same theorem covers a full disk and a missing right.  A path with steps up can have its target on
its own way; it is excluded where it matters.

* `walkFrom_of_directories`: walks lead to the same place as long as directories stay;
* `Widened`: what the making of directories does to a tree, step by step and as a whole;
* `get?_freeName`: a temporary name is free;
* `Written`, `fillAndReplace_cases`, `writeAtomic_cases`: the two ways in which a write ends;
* `writeAtomic_all_or_nothing`: the result.
-/

namespace LibraryCalls.FileTree

open Text

variable {t t' t'' : FileTree} {p q start directory : Place} {names : List String}

/-! ### Entries -/

theorem get?_put_self {e : Entry} (hp : p ≠ []) : (t.put p e).get? p = some e := by
  rw [get?, if_neg hp]
  exact Assoc.get?_set_self _ _ _

theorem get?_put_of_ne {e : Entry} (h : q ≠ p) : (t.put p e).get? q = t.get? q := by
  rw [get?, get?]
  split
  · rfl
  · exact Assoc.get?_set_of_ne _ _ h

theorem get?_remove_self (hp : p ≠ []) : (t.remove p).get? p = none := by
  rw [get?, if_neg hp, Assoc.get?_eq_none_iff]
  intro hmem
  obtain ⟨e, he, hep⟩ := List.mem_map.1 hmem
  exact (of_decide_eq_true (List.mem_filter.1 he).2) hep

theorem get?_remove_of_ne (h : q ≠ p) : (t.remove p).get? q = t.get? q := by
  rw [get?, get?]
  split
  · rfl
  · exact Assoc.get?_filter_keys (fun k => k ≠ p) (decide_eq_true h)

theorem child_ne_nil (directory : Place) (name : String) : directory ++ [name] ≠ [] := by simp

/-! ### Walks -/

/-- A last step down to what is there. -/
theorem walkFrom_snoc {name : String} (h : t.walkFrom start names = .ok directory)
    (hdirectory : t.get? directory = some .directory) (hup : name ≠ "..")
    (hsize : name.utf8ByteSize ≤ maxName) (hthere : t.get? (directory ++ [name]) ≠ none) :
    t.walkFrom start (names ++ [name]) = .ok (directory ++ [name]) := by
  have hsome : (t.get? (directory ++ [name])).isNone = false :=
    Bool.eq_false_iff.2 fun h => hthere (Option.isNone_iff_eq_none.1 h)
  rw [walkFrom_append, h]
  simp only [Except.bind, walkFrom, hdirectory, if_neg hup, if_neg (Nat.not_lt.2 hsize), hsome]
  rfl

theorem get?_of_walkFrom (h : t.walkFrom start names = .ok p) :
    start = p ∨ t.get? start = some .directory := by
  cases names with
  | nil => exact .inl (Except.ok.inj h)
  | cons name rest =>
    rw [walkFrom.eq_def] at h
    simp only at h
    split at h
    · cases h
    · cases h
    · next hstart => exact .inr hstart

/-- **A walk leads to the same place** as long as all directories stay, if that place is there. -/
theorem walkFrom_of_directories
    (hstay : ∀ p, t.get? p = some .directory → t'.get? p = some .directory)
    (h : t.walkFrom start names = .ok p) (hp : t'.get? p ≠ none) :
    t'.walkFrom start names = .ok p := by
  induction names generalizing start with
  | nil => exact h
  | cons name rest ih =>
    rw [walkFrom.eq_def] at h ⊢
    simp only at h ⊢
    split at h
    · cases h
    · cases h
    · next hstart =>
      simp only [hstay start hstart]
      split at h
      · next hup => exact (if_pos hup).trans (ih h)
      · next hup =>
        rw [if_neg hup]
        split at h
        · cases h
        · next hsize =>
          rw [if_neg hsize]
          split at h
          · cases h
          · -- the walk ends here, or it goes on from a directory, which stays one
            have hnext : t'.get? (start ++ [name]) ≠ none := by
              rcases get?_of_walkFrom h with hend | hdirectory
              · exact hend ▸ hp
              · rw [hstay _ hdirectory]
                simp
            rw [if_neg fun hnone => hnext (Option.isNone_iff_eq_none.1 hnone)]
            exact ih h

/-- Names lead to a place, and so do names behind them. -/
def OnWay (t : FileTree) (start : Place) (names : List String) (p : Place) : Prop :=
  ∃ way, way ≠ [] ∧ way <+: names ∧ t.walkFrom start way = .ok p

/-- A tree has become another one in which directories on the way along names are new, and nothing
else. -/
structure Widened (start : Place) (names : List String) (t t' : FileTree) : Prop where
  here : t'.here = t.here
  each : ∀ p, t'.get? p = t.get? p ∨
    (t.get? p = none ∧ t'.get? p = some .directory ∧ OnWay t' start names p)

namespace Widened

theorem refl (start : Place) (names : List String) (t : FileTree) : Widened start names t t :=
  ⟨rfl, fun _ => .inl rfl⟩

theorem get?_of_some (h : Widened start names t t') {e : Entry} (hp : t.get? p = some e) :
    t'.get? p = some e := by
  rcases h.each p with hsame | ⟨hnone, -⟩
  · rw [hsame, hp]
  · rw [hnone] at hp
    cases hp

theorem mono {more : List String} (hbegins : names <+: more) (h : Widened start names t t') :
    Widened start more t t' := by
  refine ⟨h.here, fun p => (h.each p).imp_right ?_⟩
  rintro ⟨hnone, hnew, way, hne, hway, hwalk⟩
  exact ⟨hnone, hnew, way, hne, hway.trans hbegins, hwalk⟩

theorem trans (h : Widened start names t t') (h' : Widened start names t' t'') :
    Widened start names t t'' := by
  refine ⟨h'.here.trans h.here, fun p => ?_⟩
  rcases h'.each p with hsame' | ⟨hnone', hnew'⟩
  · rcases h.each p with hsame | ⟨hnone, hnew, way, hne, hway, hwalk⟩
    · exact .inl (hsame'.trans hsame)
    · -- a directory made in the first part is reached in the second tree as in the first
      exact .inr ⟨hnone, hsame'.trans hnew, way, hne, hway,
        walkFrom_of_directories (fun q hq => h'.get?_of_some hq) hwalk (by rw [hsame', hnew]; simp)⟩
  · rcases h.each p with hsame | ⟨-, hnew, -⟩
    · exact .inr ⟨hsame ▸ hnone', hnew'⟩
    · rw [hnew] at hnone'
      cases hnone'

end Widened

theorem makeDirectory_widened (h : t.makeDirectory start names = .ok t') :
    Widened start names t t' := by
  rw [makeDirectory] at h
  split at h
  · cases h
  · next directory hwalk =>
    split at h
    · cases h
    · next name hlast =>
      have hnames := List.dropLast_append_getLast? name hlast
      split at h
      · next hdirectory =>
        split at h
        · cases h
        · next hup =>
          split at h
          · cases h
          · next hsize =>
            split at h
            · cases h
            · next hfree =>
              obtain rfl := Except.ok.inj h
              have hnone : t.get? (directory ++ [name]) = none := by
                rwa [Bool.not_eq_true, Option.isSome_eq_false_iff, Option.isNone_iff_eq_none]
                  at hfree
              refine ⟨rfl, fun p => ?_⟩
              by_cases hp : p = directory ++ [name]
              · subst hp
                have hnew : (t.put (directory ++ [name]) .directory).get? (directory ++ [name])
                    = some .directory := get?_put_self (child_ne_nil directory name)
                have hstay : ∀ p, t.get? p = some .directory →
                    (t.put (directory ++ [name]) .directory).get? p = some .directory := by
                  intro p hp
                  rw [get?_put_of_ne, hp]
                  rintro rfl
                  rw [hnone] at hp
                  cases hp
                refine .inr ⟨hnone, hnew, names, ?_, List.prefix_rfl, ?_⟩
                · rw [← hnames]
                  exact child_ne_nil _ _
                · rw [← hnames]
                  have hin := hstay _ hdirectory
                  exact walkFrom_snoc (walkFrom_of_directories hstay hwalk (by rw [hin]; simp)) hin
                    hup (Nat.le_of_not_lt hsize) (by rw [hnew]; simp)
              · exact .inl (get?_put_of_ne hp)
      · cases h
      · cases h

theorem ensureDirectory_widened (t : FileTree) (start : Place) (names : List String) :
    Widened start names t (t.ensureDirectory start names).1 := by
  rw [ensureDirectory]
  split
  · next h => exact makeDirectory_widened h
  · exact .refl start names t

/-- **All directories that are made lie on the way**, also when one of them cannot be made.  The
induction is on how many names there are still to go up. -/
theorem ensureAll_widened (t : FileTree) (start : Place) (up : List String) :
    Widened start up.reverse t (t.ensureAll start up).1 := by
  induction up with
  | nil => exact .refl _ _ t
  | cons name up ih =>
    have hbegins : up.reverse <+: (name :: up).reverse := by
      rw [List.reverse_cons]
      exact List.prefix_append _ _
    rw [ensureAll]
    split
    · have hup := ih.mono hbegins
      split
      · next h => exact (h ▸ hup :)
      · next h => exact (h ▸ hup :).trans (ensureDirectory_widened _ start _)
    · exact ensureDirectory_widened t start _

theorem makeParents_widened (broken : Option Stage) (t : FileTree) (path : Path) :
    Widened (t.start path) path.parent.names t (t.makeParents broken path).1 := by
  have hall : ∀ names,
      Widened (t.start path) names t (t.ensureAll (t.start path) names.reverse).1 := by
    intro names
    have hwidened := ensureAll_widened t (t.start path) names.reverse
    rwa [List.reverse_reverse] at hwidened
  rw [makeParents.eq_def]
  split
  · exact (hall _).mono (List.take_prefix _ _)
  · split
    · exact .refl _ _ t
    · split
      · exact .refl _ _ t
      · exact hall _

/-! ### Temporary names -/

theorem eightDigits_injective : Function.Injective eightDigits := by
  intro m n h
  have hvalue : ∀ k, Nat.ofDigitChars 10 (eightDigits k).toList 0 = k := fun k => by
    rw [eightDigits, String.toList_ofList, Nat.ofDigitChars_append, Nat.ofDigitChars_replicate_zero,
      Nat.mul_zero, Nat.ofDigitChars_ten_toDigits]
  rw [← hvalue m, h, hvalue]

theorem temporaryName_injective (target : String) : Function.Injective (temporaryName target) := by
  intro m n h
  rw [temporaryName, temporaryName, String.append_left_inj, String.append_right_inj] at h
  exact eightDigits_injective h

theorem utf8ByteSize_le_temporaryName (target : String) (n : Nat) :
    target.utf8ByteSize < (temporaryName target n).utf8ByteSize := by
  have htmp : (".tmp" : String).utf8ByteSize = 4 := rfl
  rw [temporaryName, String.utf8ByteSize_append, htmp, String.utf8ByteSize_append,
    String.utf8ByteSize_append]
  omega

/-- The choices before the one that is taken are not free, and that one is, unless it is the last.
-/
theorem freeName_eq (t : FileTree) (directory : Place) (target : String) (fuel n : Nat) :
    ∃ k ≤ fuel, t.freeName directory target fuel n = temporaryName target (n + k) ∧
      (∀ i < k, t.get? (directory ++ [temporaryName target (n + i)]) ≠ none) ∧
      (k < fuel → t.get? (directory ++ [temporaryName target (n + k)]) = none) := by
  induction fuel generalizing n with
  | zero => exact ⟨0, Nat.le_refl 0, rfl, fun i hi => absurd hi (Nat.not_lt_zero i), fun h =>
      absurd h (Nat.lt_irrefl 0)⟩
  | succ fuel ih =>
    rw [freeName]
    split
    · next hfree =>
      exact ⟨0, Nat.zero_le _, rfl, fun i hi => absurd hi (Nat.not_lt_zero i), fun _ =>
        Option.isNone_iff_eq_none.1 hfree⟩
    · next htaken =>
      obtain ⟨k, hk, hname, hbefore, hlast⟩ := ih (n + 1)
      have hshift : ∀ i, n + 1 + i = n + (i + 1) := fun i => by omega
      refine ⟨k + 1, Nat.succ_le_succ hk, hname.trans (by rw [hshift]), fun i hi => ?_, fun h => ?_⟩
      · cases i with
        | zero => exact fun hnone => htaken (Option.isNone_iff_eq_none.2 hnone)
        | succ i => exact hshift i ▸ hbefore i (Nat.lt_of_succ_lt_succ hi)
      · exact hshift k ▸ hlast (Nat.lt_of_succ_lt_succ h)

/-- **A temporary name is free**: there are more choices than entries. -/
theorem get?_freeName (t : FileTree) (directory : Place) (target : String) :
    t.get? (directory ++ [t.freeName directory target t.entries.length 0]) = none := by
  obtain ⟨k, hk, hname, hbefore, hlast⟩ := freeName_eq t directory target t.entries.length 0
  rw [hname]
  rcases Nat.lt_or_eq_of_le hk with hlt | rfl
  · exact hlast hlt
  · -- otherwise all choices are taken, by as many entries, and one more
    by_contra htaken
    let places := (List.range (t.entries.length + 1)).map fun i =>
      directory ++ [temporaryName target i]
    have hnodup : places.Nodup := by
      refine List.Nodup.map (fun i j hij => ?_) List.nodup_range
      exact temporaryName_injective target (List.singleton_inj.1 (List.append_cancel_left hij))
    have hsubset : places ⊆ Assoc.keys t.entries := by
      intro p hp
      obtain ⟨i, hi, rfl⟩ := List.mem_map.1 hp
      have hsome : t.get? (directory ++ [temporaryName target i]) ≠ none := by
        rcases Nat.lt_or_eq_of_le (Nat.le_of_lt_succ (List.mem_range.1 hi)) with hlt | rfl
        · exact Nat.zero_add i ▸ hbefore i hlt
        · exact Nat.zero_add t.entries.length ▸ htaken
      rw [get?, if_neg (child_ne_nil _ _)] at hsome
      by_contra hmem
      exact hsome (Assoc.get?_eq_none_iff.2 hmem)
    have hlength := (hnodup.subperm hsubset).length_le
    simp only [places, List.length_map, List.length_range, Assoc.keys] at hlength
    omega

/-- **What the creation of a temporary file says**: a new, empty file in a directory that is there,
beside a target whose path can be looked up. -/
theorem createTemporary_eq_ok {broken : Option Stage} {path : Path} {temporary : Place}
    (h : t.createTemporary broken directory path = .ok (t', temporary)) :
    broken ≠ some .createTemporary ∧ t.get? directory = some .directory ∧
      '\x00' ∉ path.toString.toList ∧ path.name.utf8ByteSize ≤ maxName ∧
      (∃ n, temporary = directory ++ [temporaryName path.name n]) ∧
      t.get? temporary = none ∧ t' = t.put temporary (.file []) := by
  rw [createTemporary] at h
  split at h
  · cases h
  · next hbroken =>
    split at h
    · cases h
    · cases h
    · next hdirectory =>
      obtain ⟨k, -, hname, -⟩ := freeName_eq t directory path.name t.entries.length 0
      split at h
      · cases h
      · next hnull =>
        dsimp only at h
        split at h
        · cases h
        · next hlong =>
          obtain ⟨rfl, rfl⟩ := Prod.mk.inj (Except.ok.inj h)
          have hsize := utf8ByteSize_le_temporaryName path.name (0 + k)
          rw [← hname] at hsize
          exact ⟨hbroken, hdirectory, fun hmem => hnull (List.contains_iff_mem.2 hmem),
            Nat.le_of_lt (Nat.lt_of_lt_of_le hsize (Nat.le_of_not_lt (not_or.1 hlong).1)),
            ⟨_, by rw [hname]⟩, get?_freeName t directory path.name, rfl⟩

/-! ### Taking the place of the target -/

structure Same (t t' : FileTree) : Prop where
  here : t'.here = t.here
  each : ∀ p, t'.get? p = t.get? p

/-- The target of a path has come to hold a text, and nothing else has changed. -/
structure Written (path : Path) (text : String) (directory : Place) (t t' : FileTree) : Prop where
  here : t'.here = t.here
  target : t'.get? (directory ++ [path.name]) = some (.file (encode text))
  each : ∀ p, p ≠ directory ++ [path.name] → t'.get? p = t.get? p
  /-- The target was no directory. -/
  replaceable : t.get? (directory ++ [path.name]) ≠ some .directory
  named : path.name ≠ "" ∧ path.name ≠ ".."
  short : path.toString.utf8ByteSize ≤ maxPath

/-- A temporary file that is gone again has left nothing behind. -/
theorem same_remove {temporary : Place} (hne : temporary ≠ []) (hfree : t.get? temporary = none)
    (hhere : t'.here = t.here) (heach : ∀ p, p ≠ temporary → t'.get? p = t.get? p) :
    Same t (t'.remove temporary) := by
  refine ⟨hhere, fun p => ?_⟩
  by_cases hp : p = temporary
  · rw [hp, get?_remove_self hne, hfree]
  · rw [get?_remove_of_ne hp, heach p hp]

/-- **What a replacement says**: no failure, and a target that can be replaced by the file. -/
theorem replaceTarget_eq_ok {broken : Option Stage} {path : Path} {temporary : Place} {e : Entry}
    (hfile : t.get? temporary = some e)
    (h : t.replaceTarget broken temporary directory path = .ok t') :
    broken ≠ some .replaceTarget ∧ path.toString.utf8ByteSize ≤ maxPath ∧
      (path.name ≠ "" ∧ path.name ≠ "..") ∧
      t.get? (directory ++ [path.name]) ≠ some .directory ∧
      t' = (t.put (directory ++ [path.name]) e).remove temporary := by
  rw [replaceTarget] at h
  split at h
  · cases h
  · next hbroken =>
    split at h
    · cases h
    · next hlong =>
      split at h
      · cases h
      · next hname =>
        rw [hfile] at h
        split at h
        · next hnone => cases hnone
        · cases h
        · next entry hentry htarget =>
          obtain rfl := Option.some.inj hentry
          exact ⟨hbroken, Nat.le_of_not_lt hlong, not_or.1 hname, htarget, (Except.ok.inj h).symm⟩

/-- **Filling the temporary file and replacing the target** either fails and leaves nothing behind,
or leaves the text at the target. -/
theorem fillAndReplace_cases (broken : Option Stage) (path : Path) (text : String)
    {temporary : Place} (htemporary : ∃ n, temporary = directory ++ [temporaryName path.name n])
    (hfree : t.get? temporary = none) {after : FileTree × Except FileError Unit}
    (hafter : (t.put temporary (.file [])).fillAndReplace broken temporary directory path text
      = after) :
    (∃ e, after.2 = .error e ∧ Same t after.1) ∨
      ((∀ written, broken ≠ some (.writeTemporary written)) ∧ broken ≠ some .replaceTarget ∧
        after.2 = .ok () ∧ Written path text directory t after.1) := by
  obtain ⟨n, rfl⟩ := htemporary
  have hne := child_ne_nil directory (temporaryName path.name n)
  have hput : ∀ {t' : FileTree} (e : Entry) (p : Place),
      p ≠ directory ++ [temporaryName path.name n] →
      (t'.put (directory ++ [temporaryName path.name n]) e).get? p = t'.get? p :=
    fun e p hp => get?_put_of_ne hp
  rw [fillAndReplace.eq_def] at hafter
  split at hafter
  · subst hafter
    exact .inl ⟨_, rfl, same_remove hne hfree rfl fun p hp => by rw [hput _ p hp, hput _ p hp]⟩
  · next hwrite =>
    dsimp only at hafter
    split at hafter
    · next t' hreplace =>
      subst hafter
      obtain ⟨hbroken, hshort, hnamed, htarget, rfl⟩ :=
        replaceTarget_eq_ok (get?_put_self hne) hreplace
      -- the target is another place than the temporary file, whose name is longer
      have hother : directory ++ [path.name] ≠ directory ++ [temporaryName path.name n] := by
        intro h
        have hsize := utf8ByteSize_le_temporaryName path.name n
        rw [← List.singleton_inj.1 (List.append_cancel_left h)] at hsize
        exact Nat.lt_irrefl _ hsize
      rw [hput _ _ hother, hput _ _ hother] at htarget
      refine .inr ⟨fun written h => hwrite written h, hbroken, rfl, rfl, ?_, fun p hp => ?_,
        htarget, hnamed, hshort⟩
      · rw [get?_remove_of_ne hother, get?_put_self (child_ne_nil _ _)]
      · by_cases hgone : p = directory ++ [temporaryName path.name n]
        · rw [hgone, get?_remove_self hne, hfree]
        · rw [get?_remove_of_ne hgone, get?_put_of_ne hp, hput _ p hgone, hput _ p hgone]
    · next e hreplace =>
      subst hafter
      exact .inl ⟨e, rfl, same_remove hne hfree rfl fun p hp => by rw [hput _ p hp, hput _ p hp]⟩

/-! ### The write -/

/-- **The two ways in which a write ends.**  The directories on the way are made, all of them or
some; then it fails and nothing else has changed, or no step fails and the text is at the target. -/
theorem writeAtomic_cases (broken : Option Stage) (t : FileTree) (path : Path) (text : String)
    {after : FileTree × Except FileError Unit} (hafter : t.writeAtomic broken path text = after) :
    ∃ t', Widened (t.start path) path.parent.names t t' ∧
      ((∃ e, after.2 = .error e ∧ Same t' after.1) ∨
        (broken = none ∧ after.2 = .ok () ∧ ∃ directory,
          t'.walkFrom (t'.start path) path.parent.names = .ok directory ∧
          t'.get? directory = some .directory ∧ '\x00' ∉ path.toString.toList ∧
          path.name.utf8ByteSize ≤ maxName ∧ Written path text directory t' after.1)) := by
  have hwidened := makeParents_widened broken t path
  rw [writeAtomic] at hafter
  split at hafter
  · next t' e hparents =>
    subst hafter
    rw [hparents] at hwidened
    exact ⟨t', hwidened, .inl ⟨e, rfl, rfl, fun _ => rfl⟩⟩
  · next t' hparents =>
    rw [hparents] at hwidened
    refine ⟨t', hwidened, ?_⟩
    have hmade : ∀ made, broken ≠ some (.makeParents made) := by
      rintro made rfl
      cases congrArg Prod.snd hparents
    split at hafter
    · next e _ =>
      subst hafter
      exact .inl ⟨e, rfl, rfl, fun _ => rfl⟩
    · next directory hwalk =>
      split at hafter
      · next e _ =>
        subst hafter
        exact .inl ⟨e, rfl, rfl, fun _ => rfl⟩
      · next t₂ temporary htemporary =>
        obtain ⟨hcreate, hdirectory, hnull, hsize, hname, hfree, rfl⟩ :=
          createTemporary_eq_ok htemporary
        rcases fillAndReplace_cases broken path text hname hfree hafter with
          hfailed | ⟨hwrite, hreplace, hok, hwritten⟩
        · exact .inl hfailed
        · refine .inr ⟨?_, hok, directory, hwalk, hdirectory, hnull, hsize, hwritten⟩
          cases broken with
          | none => rfl
          | some stage =>
            cases stage with
            | makeParents made => exact absurd rfl (hmade made)
            | createTemporary => exact absurd rfl hcreate
            | writeTemporary written => exact absurd rfl (hwrite written)
            | replaceTarget => exact absurd rfl hreplace

theorem names_eq_append {path : Path} (h : path.name ≠ "") :
    path.names = path.parent.names ++ [path.name] := by
  cases hlast : path.names.getLast? with
  | none => exact absurd (by rw [Path.name, hlast]; rfl) h
  | some name =>
    have hname : path.name = name := by rw [Path.name, hlast]; rfl
    rw [hname]
    exact (List.dropLast_append_getLast? name hlast).symm

/-- Directories stay directories. -/
theorem Written.get?_of_directory {path : Path} {text : String}
    (h : Written path text directory t t') (p : Place) (hp : t.get? p = some .directory) :
    t'.get? p = some .directory := by
  rw [h.each p, hp]
  rintro rfl
  exact h.replaceable hp

/-- **The path leads to the target** after the write. -/
theorem Written.walk_eq {path : Path} {text : String} (h : Written path text directory t t')
    (hwalk : t.walkFrom (t.start path) path.parent.names = .ok directory)
    (hdirectory : t.get? directory = some .directory) (hnull : '\x00' ∉ path.toString.toList)
    (hsize : path.name.utf8ByteSize ≤ maxName) :
    t'.walk path = .ok (directory ++ [path.name]) := by
  have hstay := h.get?_of_directory
  have hstart : t'.start path = t.start path := by rw [start, start, h.here]
  refine walk_eq_ok_iff.2 ⟨hnull, h.short, ?_⟩
  rw [names_eq_append h.named.1, hstart]
  have hin := hstay _ hdirectory
  exact walkFrom_snoc (walkFrom_of_directories hstay hwalk (by rw [hin]; simp)) hin h.named.2 hsize
    (by rw [h.target]; simp)

/-- **What is written is read.** -/
theorem read_of_writeAtomic {broken : Option Stage} {path : Path} {text : String}
    (h : (t.writeAtomic broken path text).2 = .ok ()) :
    (t.writeAtomic broken path text).1.read path = .ok (encode text) := by
  obtain ⟨t', -, hend⟩ := writeAtomic_cases broken t path text rfl
  rcases hend with ⟨e, herror, -⟩ | ⟨-, -, directory, hwalk, hdirectory, hnull, hsize, hwritten⟩
  · cases h.symm.trans herror
  · exact read_eq_ok_iff.2
      ⟨_, hwritten.walk_eq hwalk hdirectory hnull hsize, hwritten.target⟩

/-- Nothing that was there has changed, and it is found as before. -/
theorem Widened.walk_eq {path : Path} {e : Entry} (h : Widened start names t t')
    (hwalk : t.walk path = .ok p) (hp : t.get? p = some e) :
    t'.walk path = .ok p ∧ t'.get? p = some e := by
  have hafter := h.get?_of_some hp
  obtain ⟨hnull, hshort, hnames⟩ := walk_eq_ok_iff.1 hwalk
  have hstart : t'.start path = t.start path := by rw [FileTree.start, FileTree.start, h.here]
  refine ⟨walk_eq_ok_iff.2 ⟨hnull, hshort, ?_⟩, hafter⟩
  rw [hstart]
  exact walkFrom_of_directories (fun q hq => h.get?_of_some hq) hnames (by rw [hafter]; simp)

end LibraryCalls.FileTree
