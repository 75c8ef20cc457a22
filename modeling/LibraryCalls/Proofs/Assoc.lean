import LibraryCalls.Assoc
import Mathlib.Data.List.Basic
import Mathlib.Data.List.Induction

/-!
# Insertion-ordered maps that were built by setting keys

Setting keys one after another lists every key once, in the order in which the keys were first set.
The order of the keys depends on the keys alone, and the values only on the last pair of each key.

* `get?_eq_none_iff`, `contains_eq_true_iff`: look-up and the keys;
* `get?_append`, `get?_zip`: look-up in maps that are put together or paired up;
* `set_of_not_mem`: a new key is added at the end;
* `ext_get?`: a map without repeated keys is its keys and its values;
* `get?_filter_keys`, `get?_perm`: entries with other keys, and the order of the entries;
* `setAll`: setting several pairs in turn, with its keys (`keys_setAll_congr`,
  `nodup_keys_setAll`, `mem_keys_setAll`) and its values (`get?_setAll`);
* `get?_ofPairs`, `keys_ofPairs`, `pairwise_keys_ofPairs`: a map built from pairs has the last value
  of each key, and the keys in the order of their first occurrence.
-/

namespace LibraryCalls.Assoc

variable {α β : Type}

section

variable [DecidableEq α] {m : Assoc α β} {key : α}

/-! ### Look-up and keys -/

theorem get?_eq_none_iff : m.get? key = none ↔ key ∉ m.keys := by
  induction m with
  | nil => simp [get?]
  | cons entry rest ih =>
    obtain ⟨k, v⟩ := entry
    by_cases h : k = key
    · simp [get?, h]
    · simp [get?, h, ih, Ne.symm h]

theorem contains_eq_true_iff : m.contains key = true ↔ key ∈ m.keys := by
  rw [contains, Option.isSome_iff_ne_none, ne_eq, get?_eq_none_iff, Decidable.not_not]

theorem exists_get?_of_mem (h : key ∈ m.keys) : ∃ value, m.get? key = some value :=
  Option.isSome_iff_exists.1 (contains_eq_true_iff.2 h)

/-! ### Maps put together -/

theorem get?_append (m m' : Assoc α β) (key : α) :
    get? (m ++ m') key = (get? m key).or (get? m' key) := by
  induction m with
  | nil => rfl
  | cons entry rest ih =>
    obtain ⟨k, v⟩ := entry
    rw [List.cons_append, get?, get?, ih]
    split
    · exact Option.some_or.symm
    · rfl

theorem get?_zip {ks : List α} {vs : List β} (hle : vs.length ≤ ks.length) (key : α) :
    get? (ks.zip vs) key = vs[ks.idxOf key]? := by
  induction ks generalizing vs with
  | nil =>
    obtain rfl : vs = [] := List.eq_nil_of_length_eq_zero (Nat.le_zero.1 hle)
    rfl
  | cons k ks ih =>
    cases vs with
    | nil => rfl
    | cons v vs =>
      rw [List.zip_cons_cons, get?]
      by_cases h : k = key
      · rw [if_pos h, h, List.idxOf_cons_self, List.getElem?_cons_zero]
      · rw [if_neg h, List.idxOf_cons_ne ks h, ih (Nat.le_of_succ_le_succ hle),
          List.getElem?_cons_succ]

/-! ### Setting one key -/

theorem set_of_not_mem (h : key ∉ m.keys) (value : β) : m.set key value = m ++ [(key, value)] := by
  induction m with
  | nil => rfl
  | cons entry rest ih =>
    obtain ⟨k, v⟩ := entry
    rw [keys_cons, List.mem_cons, not_or] at h
    rw [set, if_neg (Ne.symm h.1), ih h.2, List.cons_append]

theorem mem_keys_set {other : α} {value : β} :
    other ∈ (m.set key value).keys ↔ other ∈ m.keys ∨ other = key := by
  rw [keys_set]
  split
  · next h => exact ⟨.inl, fun ho => ho.elim id fun he => he ▸ h⟩
  · rw [List.mem_append, List.mem_singleton]

theorem nodup_keys_set (h : m.keys.Nodup) (value : β) : (m.set key value).keys.Nodup := by
  rw [keys_set]
  split
  · exact h
  · next hk =>
    refine List.nodup_append.2 ⟨h, List.pairwise_singleton _ key, ?_⟩
    intro a ha b hb
    rw [List.mem_singleton.1 hb]
    exact fun he => hk (he ▸ ha)

/-! ### Equal maps -/

/-- **A map without repeated keys is its keys and its values.** -/
theorem ext_get? {m' : Assoc α β} (hkeys : m.keys = m'.keys) (hnodup : m.keys.Nodup)
    (hget : ∀ k ∈ m.keys, m.get? k = m'.get? k) : m = m' := by
  induction m generalizing m' with
  | nil => exact (List.map_eq_nil_iff.1 hkeys.symm).symm
  | cons entry rest ih =>
    obtain ⟨k, v⟩ := entry
    cases m' with
    | nil => simp at hkeys
    | cons entry' rest' =>
      obtain ⟨k', v'⟩ := entry'
      obtain ⟨rfl, hrest⟩ : k = k' ∧ keys rest = keys rest' := by simpa using hkeys
      obtain ⟨hk, hnodup⟩ := List.nodup_cons.1 hnodup
      have hv : v = v' := by simpa [get?] using hget k List.mem_cons_self
      have htail : rest = rest' := by
        refine ih hrest hnodup fun k' hk' => ?_
        have hne : k ≠ k' := fun he => hk (he ▸ hk')
        simpa [get?, hne] using hget k' (List.mem_cons_of_mem k hk')
      rw [hv, htail]

/-! ### The order of the entries -/

theorem get?_filter_keys (p : α → Bool) (h : p key = true) :
    get? (m.filter fun e => p e.1) key = m.get? key := by
  induction m with
  | nil => rfl
  | cons entry rest ih =>
    obtain ⟨k, v⟩ := entry
    by_cases hk : k = key
    · subst hk
      simp [get?, h]
    · cases hp : p k <;> simp [get?, hp, hk, ih]

theorem mem_of_get? {value : β} (h : m.get? key = some value) : (key, value) ∈ m := by
  induction m with
  | nil => cases h
  | cons entry rest ih =>
    obtain ⟨k, v⟩ := entry
    rw [get?] at h
    split at h
    · next hk =>
      rw [hk, Option.some.inj h]
      exact List.mem_cons_self
    · exact List.mem_cons_of_mem _ (ih h)

/-- **Where no key is repeated**, an entry is found wherever it stands. -/
theorem get?_eq_some_iff_mem (hnodup : m.keys.Nodup) {value : β} :
    m.get? key = some value ↔ (key, value) ∈ m := by
  induction m with
  | nil => simp [get?]
  | cons entry rest ih =>
    obtain ⟨k, v⟩ := entry
    obtain ⟨hk, hrest⟩ := List.nodup_cons.1 hnodup
    by_cases h : k = key
    · subst h
      have hnot : (k, value) ∉ rest := fun hmem => hk (List.mem_map.2 ⟨_, hmem, rfl⟩)
      simp [get?, hnot, eq_comm]
    · simp [get?, h, ih hrest, Ne.symm h]

/-- The order of the entries does not matter. -/
theorem get?_perm {m' : Assoc α β} (hperm : m.Perm m') (hnodup : m.keys.Nodup) :
    m'.get? key = m.get? key := by
  have hnodup' : m'.keys.Nodup := (hperm.map Prod.fst).nodup_iff.1 hnodup
  refine Option.ext fun value => ?_
  rw [get?_eq_some_iff_mem hnodup, get?_eq_some_iff_mem hnodup']
  exact hperm.mem_iff.symm

end

/-! ### Setting several keys -/

variable [DecidableEq α]

def setAll (m : Assoc α β) (pairs : List (α × β)) : Assoc α β :=
  pairs.foldl (fun m p => m.set p.1 p.2) m

@[simp] theorem setAll_nil (m : Assoc α β) : m.setAll [] = m := rfl

@[simp] theorem setAll_cons (m : Assoc α β) (p : α × β) (pairs : List (α × β)) :
    m.setAll (p :: pairs) = (m.set p.1 p.2).setAll pairs := rfl

variable {m : Assoc α β} {pairs : Assoc α β}

/-- **The keys depend on the keys alone**, in whatever way the values are given. -/
theorem keys_setAll_congr {γ : Type} {m' pairs' : Assoc α γ} (hm : m.keys = m'.keys)
    (hp : pairs.keys = pairs'.keys) : (m.setAll pairs).keys = (m'.setAll pairs').keys := by
  induction pairs generalizing m m' pairs' with
  | nil =>
    obtain rfl : pairs' = [] := List.map_eq_nil_iff.1 hp.symm
    exact hm
  | cons p rest ih =>
    cases pairs' with
    | nil => exact absurd hp (List.cons_ne_nil p.1 (keys rest))
    | cons p' rest' =>
      obtain ⟨hk, hrest⟩ : p.1 = p'.1 ∧ keys rest = keys rest' := List.cons.inj hp
      have hset : (m.set p.1 p.2).keys = (m'.set p'.1 p'.2).keys := by
        rw [keys_set, keys_set, hm, hk]
      show ((m.set p.1 p.2).setAll rest).keys = ((m'.set p'.1 p'.2).setAll rest').keys
      exact ih hset hrest

theorem nodup_keys_setAll (h : m.keys.Nodup) : (m.setAll pairs).keys.Nodup := by
  induction pairs generalizing m with
  | nil => exact h
  | cons p rest ih => exact ih (nodup_keys_set h p.2)

theorem mem_keys_setAll {key : α} :
    key ∈ (m.setAll pairs).keys ↔ key ∈ m.keys ∨ key ∈ pairs.keys := by
  induction pairs generalizing m with
  | nil => simp
  | cons p rest ih => rw [setAll_cons, ih, mem_keys_set, keys_cons, List.mem_cons, or_assoc]

/-- **The values**, when each key is always given the same one. -/
theorem get?_setAll {f : α → β} (hf : ∀ p ∈ pairs, p.2 = f p.1) {key : α}
    (h : key ∈ pairs.keys ∨ m.get? key = some (f key)) :
    (m.setAll pairs).get? key = some (f key) := by
  induction pairs generalizing m with
  | nil => exact h.resolve_left List.not_mem_nil
  | cons p rest ih =>
    refine ih (fun q hq => hf q (List.mem_cons_of_mem p hq)) ?_
    by_cases hk : key = p.1
    · subst hk
      exact .inr ((get?_set_self m p.1 p.2).trans (congrArg some (hf p List.mem_cons_self)))
    · rw [get?_set_of_ne m p.2 hk]
      exact h.imp_left fun hmem => (List.mem_cons.1 hmem).resolve_left hk

theorem setAll_of_nodup (h : (keys (m ++ pairs)).Nodup) : m.setAll pairs = m ++ pairs := by
  induction pairs generalizing m with
  | nil => exact (List.append_nil m).symm
  | cons p rest ih =>
    have hnew : p.1 ∉ m.keys := by
      intro hmem
      rw [keys, List.map_append] at h
      exact (List.nodup_append.1 h).2.2 p.1 hmem p.1 List.mem_cons_self rfl
    rw [List.append_cons] at h
    rw [setAll_cons, set_of_not_mem hnew, ih h, ← List.append_cons]

/-! ### Maps built from pairs -/

theorem ofPairs_concat (pairs : List (α × β)) (p : α × β) :
    ofPairs (pairs ++ [p]) = (ofPairs pairs).set p.1 p.2 :=
  List.foldl_append

theorem mem_keys_ofPairs {key : α} : key ∈ (ofPairs pairs).keys ↔ key ∈ pairs.keys :=
  mem_keys_setAll.trans (or_iff_right List.not_mem_nil)

theorem nodup_keys_ofPairs (pairs : Assoc α β) : (ofPairs pairs).keys.Nodup :=
  nodup_keys_setAll List.nodup_nil

/-- **The last value of a key counts.** -/
theorem get?_ofPairs (pairs : Assoc α β) (key : α) :
    (ofPairs pairs).get? key = get? pairs.reverse key := by
  induction pairs using List.reverseRecOn with
  | nil => rfl
  | append_singleton pairs p ih =>
    rw [ofPairs_concat, List.reverse_concat, get?]
    by_cases h : p.1 = key
    · rw [if_pos h, ← h, get?_set_self]
    · rw [if_neg h, get?_set_of_ne _ _ (Ne.symm h), ih]

theorem keys_ofPairs (pairs : Assoc α β) : (ofPairs pairs).keys = (keys pairs).eraseDups := by
  induction pairs using List.reverseRecOn with
  | nil => rfl
  | append_singleton pairs p ih =>
    have hkeys : keys (pairs ++ [p]) = keys pairs ++ [p.1] := List.map_append
    rw [ofPairs_concat, keys_set, hkeys, List.eraseDups_append, ih]
    by_cases h : p.1 ∈ keys pairs
    · rw [if_pos (List.mem_eraseDups.2 h)]
      simp [List.removeAll, h]
    · rw [if_neg (mt List.mem_eraseDups.1 h)]
      simp [List.removeAll, List.eraseDups_cons, h]

/-- **The keys stand in the order of their first occurrence.**  The induction is on the last pair,
which adds its key at the end or leaves the keys as they are. -/
theorem pairwise_keys_ofPairs (pairs : Assoc α β) :
    (ofPairs pairs).keys.Pairwise fun a b => (keys pairs).idxOf a < (keys pairs).idxOf b := by
  induction pairs using List.reverseRecOn with
  | nil => exact List.Pairwise.nil
  | append_singleton pairs p ih =>
    have hkeys : keys (pairs ++ [p]) = keys pairs ++ [p.1] := List.map_append
    have hold : ∀ a ∈ (ofPairs pairs).keys, (keys pairs ++ [p.1]).idxOf a = (keys pairs).idxOf a :=
      fun a ha => List.idxOf_append_of_mem (mem_keys_ofPairs.1 ha)
    have hearlier : (ofPairs pairs).keys.Pairwise fun a b =>
        (keys pairs ++ [p.1]).idxOf a < (keys pairs ++ [p.1]).idxOf b := by
      refine ih.imp_of_mem fun {a b} ha hb hlt => ?_
      rw [hold a ha, hold b hb]
      exact hlt
    rw [ofPairs_concat, keys_set, hkeys]
    split
    · exact hearlier
    · next hnew =>
      refine List.pairwise_append.2 ⟨hearlier, List.pairwise_singleton _ _, ?_⟩
      intro a ha b hb
      obtain rfl := List.mem_singleton.1 hb
      have hlast : p.1 ∉ keys pairs := fun hmem => hnew (mem_keys_ofPairs.2 hmem)
      rw [hold a ha, List.idxOf_append_of_notMem hlast]
      exact Nat.lt_add_right _ (List.idxOf_lt_length_of_mem (mem_keys_ofPairs.1 ha))

end LibraryCalls.Assoc
