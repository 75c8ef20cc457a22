import Mathlib
import LibraryCalls.Proofs.Placeholder.Fill
import LibraryCalls.Proofs.Placeholder.Names

/-!
# Where the placeholders of a text stand

The scan through a text goes on behind each placeholder that it finds and never goes back.  It
misses none by that: a placeholder has its only dollar sign in front, and so no placeholder begins
inside another one, or inside the broken beginning of one.

To stand at a position means that the written form of the placeholder is there, a statement about
the text alone.  The scan is compared with it in both directions.  What the scan finds stands there,
by construction; what stands there is found, because the text can be cut in front of the
placeholder, and there no other one is cut in two.

Positions are carried along the parts by adding up the lengths of what they are written as.  They
increase along the text, so that listing names in the order of the scan is listing them by where
they first stand.

* `atHead?_eq_some_iff`: what stands at the head of a text when a placeholder does;
* `Apart`, `pieces_append`: two texts behind each other are scanned apart, unless a placeholder
  begins in the first and ends in the second;
* `pieces_around`: a placeholder inside a text is one of its parts;
* `marks`, `mem_marks_pieces_iff`: the positions at which the scan finds placeholders are all those
  at which placeholders stand;
* `names_occurring`: the names of a text, and their order.
-/

namespace LibraryCalls.Placeholder

variable {name : String} {cs s t after : List Char} {i j : Nat} {ps : List Piece}

/-! ### Written placeholders -/

/-- Whether a text can be the name of a placeholder. -/
def IsName (name : String) : Prop :=
  name ≠ "" ∧ ∀ c ∈ name.toList, isNameChar c = true

instance (name : String) : Decidable (IsName name) :=
  inferInstanceAs (Decidable (_ ∧ _))

theorem IsName.dollar_not_mem (h : IsName name) : '$' ∉ name.toList :=
  fun hmem => absurd (h.2 '$' hmem) (by decide)

theorem dollar_not_mem_tail_written (h : IsName name) : '$' ∉ (written name).tail := by
  have hname := h.dollar_not_mem
  simp [written, hname]

theorem isName_of_atHead? {chars : List Char} (h : atHead? cs = some (chars, after)) :
    IsName (String.ofList chars) := by
  unfold atHead? at h
  split at h
  · rename_i rest
    split at h
    · split at h
      · cases h
      · next hne =>
        obtain ⟨rfl, -⟩ : rest.takeWhile isNameChar = chars ∧ _ = after := by simpa using h
        constructor
        · simpa [← String.toList_inj] using hne
        · intro c hc
          rw [String.toList_ofList] at hc
          exact List.all_eq_true.1 List.all_takeWhile c hc
    · cases h
  · cases h

theorem atHead?_written_append (h : IsName name) (after : List Char) :
    atHead? (written name ++ after) = some (name.toList, after) := by
  obtain ⟨hne, hchars⟩ := h
  have hbrace : ¬ isNameChar '}' = true := by decide
  have hnil : name.toList ≠ [] := fun h => hne (String.toList_eq_nil_iff.1 h)
  have hshape : written name ++ after = '$' :: '{' :: (name.toList ++ '}' :: after) := by
    simp [written]
  have hdrop : (name.toList ++ '}' :: after).dropWhile isNameChar = '}' :: after := by
    rw [List.dropWhile_append_of_pos hchars, List.dropWhile_cons_of_neg hbrace]
  have htake : (name.toList ++ '}' :: after).takeWhile isNameChar = name.toList := by
    rw [List.takeWhile_append_of_pos hchars, List.takeWhile_cons_of_neg hbrace, List.append_nil]
  rw [hshape]
  simp only [atHead?, hdrop, htake, if_neg hnil]

/-- **A placeholder at the head of a text** is its written form, with whatever stands behind it. -/
theorem atHead?_eq_some_iff :
    atHead? cs = some (name.toList, after) ↔ IsName name ∧ cs = written name ++ after := by
  constructor
  · intro h
    exact ⟨by simpa using isName_of_atHead? h, by simpa using eq_written_of_atHead? h⟩
  · rintro ⟨hname, rfl⟩
    exact atHead?_written_append hname after

theorem atHead?_eq_none_iff :
    atHead? cs = none ↔ ∀ name after, IsName name → cs ≠ written name ++ after := by
  constructor
  · intro h name after hname hcs
    cases h.symm.trans (atHead?_eq_some_iff.2 ⟨hname, hcs⟩)
  · intro h
    refine Option.eq_none_iff_forall_ne_some.2 fun found hfound => ?_
    have hname : atHead? cs = some ((String.ofList found.1).toList, found.2) := by
      rw [String.toList_ofList]
      exact hfound
    obtain ⟨hisName, hcs⟩ := atHead?_eq_some_iff.1 hname
    exact h _ found.2 hisName hcs

/-! ### Parts -/

theorem pieces_nil : pieces [] = [] := by
  rw [pieces]

theorem pieces_written_append (h : IsName name) (after : List Char) :
    pieces (written name ++ after) = .hole name :: pieces after := by
  have hhead := atHead?_written_append h after
  have hshape : written name ++ after = '$' :: '{' :: (name.toList ++ '}' :: after) := by
    simp [written]
  rw [hshape] at hhead ⊢
  rw [pieces]
  split
  · next n a hsome =>
    obtain ⟨rfl, rfl⟩ : name.toList = n ∧ after = a := by
      simpa using Option.some.inj (hhead.symm.trans hsome)
    rw [String.ofList_toList]
  · next hnone => cases hhead.symm.trans hnone

theorem pieces_cons_of_atHead?_eq_none {c : Char} (h : atHead? (c :: cs) = none) :
    pieces (c :: cs) = .char c :: pieces cs := by
  rw [pieces]
  split
  · next hsome => cases h.symm.trans hsome
  · rfl

theorem isName_of_mem_pieces (h : .hole name ∈ pieces cs) : IsName name := by
  fun_induction pieces cs with
  | case1 => cases h
  | case2 c cs n after hhead ih =>
    rcases List.mem_cons.1 h with h | h
    · obtain rfl : name = String.ofList n := Piece.hole.inj h
      exact isName_of_atHead? hhead
    · exact ih h
  | case3 c cs hhead ih =>
    rcases List.mem_cons.1 h with h | h
    · cases h
    · exact ih h

/-! ### Texts behind each other -/

/-- Of two texts behind each other, no placeholder begins in the first and ends in the second. -/
def Apart (s t : List Char) : Prop :=
  ∀ u, u <:+ s → u ≠ [] → ∀ name after, IsName name → u ++ t = written name ++ after →
    written name <+: u

theorem Apart.of_suffix {s' : List Char} (h : Apart s t) (hs : s' <:+ s) : Apart s' t :=
  fun u hu => h u (hu.trans hs)

/-- **Two texts behind each other are scanned apart**, unless a placeholder is cut in two. -/
theorem pieces_append (h : Apart s t) : pieces (s ++ t) = pieces s ++ pieces t := by
  fun_induction pieces s with
  | case1 => rfl
  | case2 c cs n rest hhead ih =>
    have hname := isName_of_atHead? hhead
    have hcs := eq_written_of_atHead? hhead
    have hrest : Apart rest t := h.of_suffix ⟨_, hcs.symm⟩
    rw [hcs, List.append_assoc, pieces_written_append hname, ih hrest, List.cons_append]
  | case3 c cs hhead ih =>
    have hnone : atHead? (c :: (cs ++ t)) = none := by
      refine atHead?_eq_none_iff.2 fun name after hname heq => ?_
      -- the placeholder would already stand at the head of the first text
      obtain ⟨rest, hrest⟩ := h _ List.suffix_rfl (List.cons_ne_nil c cs) name after hname heq
      exact atHead?_eq_none_iff.1 hhead name rest hname hrest.symm
    rw [List.cons_append, pieces_cons_of_atHead?_eq_none hnone,
      ih (h.of_suffix (List.suffix_cons c cs)), List.cons_append]

/-- Two texts that begin with a placeholder: it stands in the first one, or its end in the second.
-/
theorem prefix_or_exists_rest (h : s ++ t = written name ++ after) :
    written name <+: s ∨ ∃ c rest, written name = s ++ c :: rest ∧ t = c :: (rest ++ after) := by
  rcases List.append_eq_append_iff.1 h with ⟨v, hwritten, ht⟩ | ⟨v, hs, -⟩
  · cases v with
    | nil => exact .inl ⟨[], by simp [hwritten]⟩
    | cons c rest => exact .inr ⟨c, rest, hwritten, ht⟩
  · exact .inl ⟨v, hs.symm⟩

/-- No placeholder is cut in two in front of a dollar sign. -/
theorem apart_dollar (s t : List Char) : Apart s ('$' :: t) := by
  intro u _ hne name after hname heq
  rcases prefix_or_exists_rest heq with hprefix | ⟨c, rest, hwritten, hcut⟩
  · exact hprefix
  · -- the dollar sign would stand inside the placeholder
    obtain ⟨rfl, -⟩ := List.cons.inj hcut
    obtain ⟨d, u, rfl⟩ := List.exists_cons_of_ne_nil hne
    refine absurd ?_ (dollar_not_mem_tail_written hname)
    rw [hwritten, List.cons_append, List.tail_cons]
    exact List.mem_append_right u List.mem_cons_self

/-- **A placeholder inside a text is one of its parts**, whatever stands around it. -/
theorem pieces_around (h : IsName name) (before after : List Char) :
    pieces (before ++ written name ++ after) = pieces before ++ .hole name :: pieces after := by
  have happart : Apart before (written name ++ after) := apart_dollar before _
  rw [List.append_assoc, pieces_append happart, pieces_written_append h]

/-! ### Positions -/

/-- The placeholder with this name stands in the text at position `i`. -/
def StandsAt (name : String) (cs : List Char) (i : Nat) : Prop :=
  written name <+: cs.drop i

theorem standsAt_iff :
    StandsAt name cs i ↔
      ∃ before after, cs = before ++ written name ++ after ∧ before.length = i := by
  constructor
  · rintro ⟨after, hafter⟩
    have hlt : i < cs.length := by
      have hlength := congrArg List.length hafter
      simp only [written, List.length_append, List.length_drop, List.length_cons] at hlength
      omega
    refine ⟨cs.take i, after, ?_, by rw [List.length_take]; omega⟩
    rw [List.append_assoc, hafter, List.take_append_drop]
  · rintro ⟨before, after, rfl, rfl⟩
    refine ⟨after, ?_⟩
    rw [List.append_assoc, List.drop_left]

/-- A placeholder stands somewhere in a text exactly when the text contains its written form. -/
theorem exists_standsAt_iff : (∃ i, StandsAt name cs i) ↔ written name <:+: cs := by
  constructor
  · rintro ⟨i, h⟩
    obtain ⟨before, after, rfl, -⟩ := standsAt_iff.1 h
    exact ⟨before, after, rfl⟩
  · rintro ⟨before, after, rfl⟩
    exact ⟨before.length, standsAt_iff.2 ⟨before, after, rfl, rfl⟩⟩

/-- The placeholders among the parts of a text with the positions at which they stand, if the parts
stand from position `i` on. -/
def marks : Nat → List Piece → List (Nat × String)
  | _, [] => []
  | i, .char _ :: rest => marks (i + 1) rest
  | i, .hole name :: rest => (i, name) :: marks (i + (written name).length) rest

theorem marks_append (i : Nat) (ps qs : List Piece) :
    marks i (ps ++ qs) = marks i ps ++ marks (i + (ps.flatMap Piece.source).length) qs := by
  induction ps generalizing i with
  | nil => rfl
  | cons p ps ih =>
    cases p with
    | char c =>
      rw [List.cons_append, marks, marks, ih, List.flatMap_cons, List.length_append, Piece.source,
        List.length_singleton, Nat.add_assoc]
    | hole n =>
      rw [List.cons_append, marks, marks, ih, List.flatMap_cons, List.length_append, Piece.source,
        Nat.add_assoc, List.cons_append]

theorem map_snd_marks (i : Nat) (ps : List Piece) :
    (marks i ps).map Prod.snd = ps.filterMap Piece.name? := by
  induction ps generalizing i with
  | nil => rfl
  | cons p ps ih =>
    cases p with
    | char c => exact ih (i + 1)
    | hole n => exact congrArg (n :: ·) (ih _)

theorem exists_split_of_mem_marks (h : (j, name) ∈ marks i ps) :
    ∃ front back, ps = front ++ .hole name :: back ∧
      j = i + (front.flatMap Piece.source).length := by
  induction ps generalizing i with
  | nil => cases h
  | cons p ps ih =>
    cases p with
    | char c =>
      obtain ⟨front, back, rfl, rfl⟩ := ih h
      refine ⟨.char c :: front, back, rfl, ?_⟩
      rw [List.flatMap_cons, List.length_append, Piece.source, List.length_singleton, Nat.add_assoc]
    | hole n =>
      rcases List.mem_cons.1 h with h | h
      · obtain ⟨rfl, rfl⟩ := Prod.mk.inj h
        exact ⟨[], ps, rfl, rfl⟩
      · obtain ⟨front, back, rfl, rfl⟩ := ih h
        refine ⟨.hole n :: front, back, rfl, ?_⟩
        rw [List.flatMap_cons, List.length_append, Piece.source, Nat.add_assoc]

theorem le_of_mem_marks (h : (j, name) ∈ marks i ps) : i ≤ j := by
  obtain ⟨front, back, -, rfl⟩ := exists_split_of_mem_marks h
  exact Nat.le_add_right i _

theorem pairwise_marks (i : Nat) (ps : List Piece) :
    (marks i ps).Pairwise fun a b => a.1 < b.1 := by
  induction ps generalizing i with
  | nil => exact List.Pairwise.nil
  | cons p ps ih =>
    cases p with
    | char c => exact ih (i + 1)
    | hole n =>
      refine List.pairwise_cons.2 ⟨fun b hb => ?_, ih _⟩
      have hle := le_of_mem_marks (show (b.1, b.2) ∈ _ from hb)
      simp only [written, List.length_append, List.length_cons] at hle
      omega

/-- **The scan finds the placeholders that stand in a text**, each at its position, and no others.
-/
theorem mem_marks_pieces_iff :
    (i, name) ∈ marks 0 (pieces cs) ↔ IsName name ∧ StandsAt name cs i := by
  constructor
  · intro h
    obtain ⟨front, back, hsplit, hi⟩ := exists_split_of_mem_marks h
    have hhole : .hole name ∈ pieces cs := by
      rw [hsplit]
      exact List.mem_append_right front List.mem_cons_self
    refine ⟨isName_of_mem_pieces hhole, standsAt_iff.2 ?_⟩
    refine ⟨front.flatMap Piece.source, back.flatMap Piece.source, ?_, ?_⟩
    · rw [← flatMap_source_pieces cs, hsplit, List.flatMap_append, List.flatMap_cons,
        Piece.source, List.append_assoc]
    · rw [hi, Nat.zero_add]
  · rintro ⟨hname, hstands⟩
    obtain ⟨before, after, rfl, rfl⟩ := standsAt_iff.1 hstands
    rw [pieces_around hname, marks_append, flatMap_source_pieces, Nat.zero_add, marks]
    exact List.mem_append_right _ List.mem_cons_self

/-! ### Names -/

theorem names_eq_marks (text : String) :
    names text = firstOccurrences ((marks 0 (pieces text.toList)).map Prod.snd) := by
  rw [names, map_snd_marks]

/-- Names at increasing positions: each comes where it stands first. -/
theorem pairwise_firstOccurrences {ms : List (Nat × String)}
    (h : ms.Pairwise fun a b => a.1 < b.1) :
    (firstOccurrences (ms.map Prod.snd)).Pairwise fun a b =>
      ∃ i, (i, a) ∈ ms ∧ ∀ j, (j, b) ∈ ms → i < j := by
  induction ms with
  | nil => exact List.Pairwise.nil
  | cons m ms ih =>
    obtain ⟨i, a⟩ := m
    obtain ⟨hi, hms⟩ := List.pairwise_cons.1 h
    -- another name has its positions behind this mark
    have hlater : ∀ b, b ≠ a → ∀ j, (j, b) ∈ (i, a) :: ms → (j, b) ∈ ms := by
      intro b hb j hj
      exact (List.mem_cons.1 hj).resolve_left fun he => hb (Prod.mk.inj he).2
    rw [List.map_cons, firstOccurrences, List.pairwise_cons]
    constructor
    · intro b hb
      have hne : b ≠ a := by simpa using (List.mem_filter.1 hb).2
      exact ⟨i, List.mem_cons_self, fun j hj => hi _ (hlater b hne j hj)⟩
    · refine ((ih hms).filter _).imp_of_mem fun {b c} _ hc hbc => ?_
      have hne : c ≠ a := by simpa using (List.mem_filter.1 hc).2
      obtain ⟨k, hk, hbefore⟩ := hbc
      exact ⟨k, List.mem_cons_of_mem _ hk, fun j hj => hbefore j (hlater c hne j hj)⟩

/-- **The names of a text** are those of the placeholders that it contains, each listed once.  They
are listed in the order of their first occurrence: of two names, the earlier one stands somewhere in
front of every occurrence of the later one. -/
theorem names_occurring (text : String) :
    (∀ name, name ∈ names text ↔ IsName name ∧ written name <:+: text.toList) ∧
      (names text).Nodup ∧
      (names text).Pairwise fun a b =>
        ∃ i, StandsAt a text.toList i ∧ ∀ j, StandsAt b text.toList j → i < j := by
  have hmarks : ∀ name i, (i, name) ∈ marks 0 (pieces text.toList) ↔
      IsName name ∧ StandsAt name text.toList i := fun _ _ => mem_marks_pieces_iff
  have hmem : ∀ name, name ∈ names text ↔ IsName name ∧ written name <:+: text.toList := by
    intro name
    rw [names_eq_marks, mem_firstOccurrences, List.mem_map, ← exists_standsAt_iff]
    constructor
    · rintro ⟨⟨i, n⟩, hmark, rfl⟩
      obtain ⟨hname, hstands⟩ := (hmarks _ i).1 hmark
      exact ⟨hname, i, hstands⟩
    · rintro ⟨hname, i, hstands⟩
      exact ⟨(i, name), (hmarks name i).2 ⟨hname, hstands⟩, rfl⟩
  refine ⟨hmem, nodup_firstOccurrences _, ?_⟩
  have hordered := pairwise_firstOccurrences (pairwise_marks 0 (pieces text.toList))
  rw [← names_eq_marks] at hordered
  refine hordered.imp_of_mem fun {a b} _ hb hab => ?_
  obtain ⟨i, hi, hbefore⟩ := hab
  have hname : IsName b := ((hmem b).1 hb).1
  exact ⟨i, ((hmarks a i).1 hi).2, fun j hj => hbefore j ((hmarks b j).2 ⟨hname, hj⟩)⟩

/-- Dollar signs in a row, and a placeholder behind the broken beginning of another one. -/
example : names "$$\x7ba\x7d$\x7bb$\x7bc\x7d$\x7b\x7d$\x7ba\x7d" = ["a", "c"] := by cbv

end LibraryCalls.Placeholder
