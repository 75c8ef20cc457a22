import LibraryCalls.Json.Print
import LibraryCalls.Proofs.Assoc
import LibraryCalls.Text.Integer
import Mathlib.Data.List.Nodup

/-!
# The order of members

The members of an object stand in some order, and the printed text does not tell which: it has them
by name.  Values that differ only in the order of members, on whatever level, have one text.

Being the same up to the order of members is an inductive relation with one case for each kind of
value; in the case of an object the members may be permuted and their values may be related.
Printing sorts members by name, and a list without repeated names has one sorted order, since two
members that are not in order either way have the same name.

Values with a repeated name are left out from the start.  The text of such a value would be read as
another one, and its members would have no one order.

* `Plain`: the values without floating-point numbers, repeated names and oversized whole numbers;
* `Reordered`: two values that are the same but for the order of members;
* `sorted`: a value with the members of all its objects in the order of their text;
* `mergeSort_eq_of_perm`: where no name is repeated, the order of the text is the only one;
* `reordered_sorted`, `render_eq_of_reordered`: the order of members is lost in the text, and
  nothing else of a value is changed by sorting.
-/

namespace LibraryCalls.Json

/-! ### Plain values -/

/-- The values whose text can be read again: whole numbers have no more digits than a reader takes,
no object repeats a name, and there is no number with a fraction or an exponent. -/
inductive Plain : Json → Prop
  | null : Plain .null
  | bool (value : Bool) : Plain (.bool value)
  | int {n : Int} (fits : Numeral.width n.natAbs ≤ Text.maxDigits) : Plain (.int n)
  | str (value : String) : Plain (.str value)
  | arr {items : List Json} (plain : ∀ j ∈ items, Plain j) : Plain (.arr items)
  | obj {members : List (String × Json)} (distinct : (Assoc.keys members).Nodup)
      (plain : ∀ m ∈ members, Plain m.2) : Plain (.obj members)

theorem Plain.of_arr {items : List Json} (h : Plain (.arr items)) : ∀ j ∈ items, Plain j := by
  cases h with
  | arr plain => exact plain

theorem Plain.of_obj {members : List (String × Json)} (h : Plain (.obj members)) :
    (Assoc.keys members).Nodup ∧ ∀ m ∈ members, Plain m.2 := by
  cases h with
  | obj distinct plain => exact ⟨distinct, plain⟩

/-- Two values that are the same, except that members of objects may stand in another order. -/
inductive Reordered : Json → Json → Prop
  | same (j : Json) : Reordered j j
  | arr {items items' : List Json} (length : items.length = items'.length)
      (each : ∀ (i : Nat) j k, items[i]? = some j → items'[i]? = some k → Reordered j k) :
    Reordered (.arr items) (.arr items')
  | obj {members members' : List (String × Json)}
      (names : (Assoc.keys members).Perm (Assoc.keys members'))
      (each : ∀ name j k, Assoc.get? members name = some j → Assoc.get? members' name = some k →
        Reordered j k) :
    Reordered (.obj members) (.obj members')

mutual

/-- A value with the members of every object in the order of their text. -/
def sorted : Json → Json
  | .arr items => .arr (sortedItems items)
  | .obj members => .obj ((sortedMembers members).mergeSort memberOrder)
  | j => j

def sortedItems : List Json → List Json
  | [] => []
  | j :: js => sorted j :: sortedItems js

/-- Members with their values sorted, in the order in which they stand. -/
def sortedMembers : List (String × Json) → List (String × Json)
  | [] => []
  | (name, j) :: ms => (name, sorted j) :: sortedMembers ms

end

/-! ### Lists and members, one by one -/

theorem renderItems_eq_map (items : List Json) : renderItems items = items.map render := by
  induction items with
  | nil => rfl
  | cons j js ih => rw [renderItems, ih, List.map_cons]

theorem renderMembers_eq_map (members : List (String × Json)) :
    renderMembers members = members.map (Prod.map id render) := by
  induction members with
  | nil => rfl
  | cons m ms ih =>
    obtain ⟨name, j⟩ := m
    rw [renderMembers, ih, List.map_cons]
    rfl

theorem sortedItems_eq_map (items : List Json) : sortedItems items = items.map sorted := by
  induction items with
  | nil => rfl
  | cons j js ih => rw [sortedItems, ih, List.map_cons]

theorem sortedMembers_eq_map (members : List (String × Json)) :
    sortedMembers members = members.map (Prod.map id sorted) := by
  induction members with
  | nil => rfl
  | cons m ms ih =>
    obtain ⟨name, j⟩ := m
    rw [sortedMembers, ih, List.map_cons]
    rfl

/-! ### The order of the text -/

section

variable {α β : Type}

/-- What is put in the place of the values does not change the order. -/
theorem map_mergeSort_memberOrder (f : α → β) (members : List (String × α)) :
    (members.map (Prod.map id f)).mergeSort memberOrder
      = (members.mergeSort memberOrder).map (Prod.map id f) :=
  (List.map_mergeSort (r := memberOrder) (s := memberOrder) (f := Prod.map id f)
    fun _ _ _ _ => rfl).symm

theorem pairwise_mergeSort_memberOrder (members : List (String × α)) :
    (members.mergeSort memberOrder).Pairwise fun a b => memberOrder a b = true := by
  refine List.pairwise_mergeSort (fun a b c hab hbc => ?_) (fun a b => ?_) members
  · exact decide_eq_true (String.le_trans (of_decide_eq_true hab) (of_decide_eq_true hbc))
  · rw [Bool.or_eq_true]
    exact (String.le_total a.1 b.1).imp decide_eq_true decide_eq_true

theorem eq_of_mem_of_nodup {members : List (String × α)} (hnodup : (Assoc.keys members).Nodup)
    {a b : String × α} (ha : a ∈ members) (hb : b ∈ members) (h : a.1 = b.1) : a = b := by
  obtain ⟨name, v⟩ := a
  obtain ⟨name', w⟩ := b
  obtain rfl : name = name' := h
  have hget := (Assoc.get?_eq_some_iff_mem hnodup).2 ha
  have hget' := (Assoc.get?_eq_some_iff_mem hnodup).2 hb
  rw [Option.some.inj (hget.symm.trans hget')]

/-- **Where no name is repeated, members have one order by name**, in whatever order they are given.
-/
theorem mergeSort_eq_of_perm {members members' : List (String × α)} (hperm : members.Perm members')
    (hnodup : (Assoc.keys members).Nodup) :
    members.mergeSort memberOrder = members'.mergeSort memberOrder := by
  refine List.Perm.eq_of_pairwise (fun a b ha hb hab hba => ?_)
    (pairwise_mergeSort_memberOrder members) (pairwise_mergeSort_memberOrder members')
    (((List.mergeSort_perm members _).trans hperm).trans (List.mergeSort_perm members' _).symm)
  have hname : a.1 = b.1 := String.le_antisymm (of_decide_eq_true hab) (of_decide_eq_true hba)
  exact eq_of_mem_of_nodup hnodup (List.mem_mergeSort.1 ha)
    (hperm.mem_iff.2 (List.mem_mergeSort.1 hb)) hname

theorem keys_mergeSort_perm (members : List (String × α)) :
    (Assoc.keys (members.mergeSort memberOrder)).Perm (Assoc.keys members) :=
  (List.mergeSort_perm members _).map Prod.fst

theorem keys_map_values (f : α → β) (members : List (String × α)) :
    Assoc.keys (members.map (Prod.map id f)) = Assoc.keys members := by
  rw [Assoc.keys, List.map_map]
  rfl

theorem get?_map_values (f : α → β) (members : List (String × α)) (name : String) :
    Assoc.get? (members.map (Prod.map id f)) name = (Assoc.get? members name).map f := by
  induction members with
  | nil => rfl
  | cons m ms ih =>
    obtain ⟨k, v⟩ := m
    rw [List.map_cons, Prod.map_apply, Assoc.get?, Assoc.get?, ih]
    by_cases hk : k = name <;> simp [hk]

/-- Two lists of members without repeated names that know the same names by the same values are the
same but for the order. -/
theorem perm_of_get? {members members' : List (String × α)}
    (hnodup : (Assoc.keys members).Nodup)
    (hnames : (Assoc.keys members).Perm (Assoc.keys members'))
    (hget : ∀ name v w, Assoc.get? members name = some v → Assoc.get? members' name = some w →
      v = w) : members.Perm members' := by
  have hnodup' := hnames.nodup_iff.1 hnodup
  refine (List.perm_ext_iff_of_nodup (List.Nodup.of_map Prod.fst hnodup)
    (List.Nodup.of_map Prod.fst hnodup')).2 fun ⟨name, v⟩ => ?_
  rw [← Assoc.get?_eq_some_iff_mem hnodup, ← Assoc.get?_eq_some_iff_mem hnodup']
  constructor
  · intro hv
    have hmem : name ∈ Assoc.keys members' :=
      hnames.mem_iff.1 (List.mem_map_of_mem (f := Prod.fst) (Assoc.mem_of_get? hv))
    obtain ⟨w, hw⟩ := Assoc.exists_get?_of_mem hmem
    rw [hget name v w hv hw, hw]
  · intro hv
    have hmem : name ∈ Assoc.keys members :=
      hnames.mem_iff.2 (List.mem_map_of_mem (f := Prod.fst) (Assoc.mem_of_get? hv))
    obtain ⟨w, hw⟩ := Assoc.exists_get?_of_mem hmem
    rw [← hget name w v hw hv, hw]

end

/-! ### Objects -/

/-- The members of an object as they are written, by name. -/
theorem render_obj (members : List (String × Json)) :
    render (.obj members) = '{' :: commaSeparated
      ((members.mergeSort memberOrder).map fun m => renderMember (m.1, render m.2)) ++ ['}'] := by
  rw [render, renderMembers_eq_map, map_mergeSort_memberOrder, List.map_map]
  rfl

/-- A sorted object has its members by name, each of them sorted. -/
theorem sorted_obj (members : List (String × Json)) :
    sorted (.obj members)
      = .obj ((members.mergeSort memberOrder).map (Prod.map id sorted)) := by
  rw [sorted, sortedMembers_eq_map, map_mergeSort_memberOrder]

/-- **Sorting changes nothing but the order of members.** -/
theorem reordered_sorted {j : Json} (h : Plain j) : Reordered j (sorted j) := by
  induction h with
  | null => exact .same _
  | bool => exact .same _
  | int => exact .same _
  | str => exact .same _
  | @arr items _ ih =>
    rw [sorted, sortedItems_eq_map]
    refine .arr (List.length_map sorted).symm fun i j k hj hk => ?_
    rw [List.getElem?_map, hj] at hk
    rw [← Option.some.inj hk]
    exact ih j (List.mem_of_getElem? hj)
  | @obj members hdistinct _ ih =>
    rw [sorted_obj]
    have hnames := keys_mergeSort_perm members
    refine .obj ?_ fun name j k hj hk => ?_
    · rw [keys_map_values]
      exact hnames.symm
    · rw [get?_map_values, Assoc.get?_perm (List.mergeSort_perm members _).symm hdistinct, hj] at hk
      rw [← Option.some.inj hk]
      exact ih _ (Assoc.mem_of_get? hj)

theorem reordered_of_perm {members members' : List (String × Json)} (h : members.Perm members')
    (hdistinct : (Assoc.keys members).Nodup) : Reordered (.obj members) (.obj members') := by
  refine .obj (h.map Prod.fst) fun name j k hj hk => ?_
  rw [Assoc.get?_perm h hdistinct, hj] at hk
  rw [← Option.some.inj hk]
  exact .same j

/-- Sorting changes no member's name. -/
theorem member?_sorted {members : List (String × Json)} (hdistinct : (Assoc.keys members).Nodup)
    (name : String) :
    (sorted (.obj members)).member? name = (Assoc.get? members name).map sorted := by
  rw [sorted_obj]
  show Assoc.get? ((members.mergeSort memberOrder).map (Prod.map id sorted)) name = _
  rw [get?_map_values, Assoc.get?_perm (List.mergeSort_perm members _).symm hdistinct]

/-- **Values that differ only in the order of members have the same text.**  The induction is on how
the two values are related. -/
theorem render_eq_of_reordered {j k : Json} (h : Reordered j k) (hplain : Plain j) :
    render j = render k := by
  induction h with
  | same j => rfl
  | @arr items items' hlength _ ih =>
    have heach : items.map render = items'.map render := by
      refine List.ext_getElem? fun i => ?_
      rw [List.getElem?_map, List.getElem?_map]
      cases hj : items[i]? with
      | none =>
        rw [List.getElem?_eq_none (hlength ▸ List.getElem?_eq_none_iff.1 hj)]
      | some j =>
        have hlt : i < items'.length := hlength ▸ (List.getElem?_eq_some_iff.1 hj).1
        have hk := List.getElem?_eq_getElem hlt
        rw [hk, Option.map_some, Option.map_some,
          ih i j _ hj hk (hplain.of_arr j (List.mem_of_getElem? hj))]
    rw [render, render, renderItems_eq_map, renderItems_eq_map, heach]
  | @obj members members' hnames _ ih =>
    obtain ⟨hdistinct, hmembers⟩ := hplain.of_obj
    have hperm : (members.map (Prod.map id render)).Perm (members'.map (Prod.map id render)) := by
      refine perm_of_get? ?_ ?_ fun name v w hv hw => ?_
      · rwa [keys_map_values]
      · rwa [keys_map_values, keys_map_values]
      · rw [get?_map_values, Option.map_eq_some_iff] at hv hw
        obtain ⟨j, hj, rfl⟩ := hv
        obtain ⟨k, hk, rfl⟩ := hw
        exact ih name j k hj hk (hmembers _ (Assoc.mem_of_get? hj))
    rw [render, render, renderMembers_eq_map, renderMembers_eq_map,
      mergeSort_eq_of_perm hperm (by rwa [keys_map_values])]

end LibraryCalls.Json
