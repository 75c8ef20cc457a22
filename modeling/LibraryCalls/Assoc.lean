/-!
# Insertion-ordered maps

A finite map as the list of its entries in the order in which their keys were first set.  Setting
a key that is present keeps its place and replaces its value, so the order of the keys is the order
of their first appearance and every key is listed once.

The entries are kept in a plain list rather than in a balanced tree, because the order of the keys
is something that callers see: parameters are declared in it, members of an object are read in it,
and messages list names in it.  Look-up takes the first entry with a key.  For a map that was built
by setting keys there is only one such entry, but nothing below asks for that, so that a list of
pairs from elsewhere can be looked up as well.

The type of the keys needs decidable equality and nothing else.  The theory of these maps, with the
keys and the values of a map that was built from pairs, is in `LibraryCalls.Proofs.Assoc`.

* `Assoc.get?`, `Assoc.contains`: look-up by key;
* `Assoc.set`: insertion or replacement in place;
* `Assoc.ofPairs`: the map after setting each pair in turn, so that the last value of a repeated
  key stands at its first place;
* `get?_set_self`, `get?_set_of_ne`, `keys_set`: what setting one key does to the values and the
  keys.
-/

namespace LibraryCalls

/-- Entries in the order in which their keys were first set. -/
abbrev Assoc (α β : Type) := List (α × β)

namespace Assoc

variable {α β : Type} [DecidableEq α]

def get? : Assoc α β → α → Option β
  | [], _ => none
  | (k, v) :: rest, key => if k = key then some v else get? rest key

def contains (m : Assoc α β) (key : α) : Bool :=
  (get? m key).isSome

/-- Replace the value of a key in place, or add the entry at the end. -/
def set : Assoc α β → α → β → Assoc α β
  | [], key, value => [(key, value)]
  | (k, v) :: rest, key, value =>
    if k = key then (k, value) :: rest else (k, v) :: set rest key value

/-- The map after setting each pair in turn. -/
def ofPairs (pairs : List (α × β)) : Assoc α β :=
  pairs.foldl (fun m p => set m p.1 p.2) []

def keys (m : Assoc α β) : List α :=
  m.map (·.1)

omit [DecidableEq α] in
@[simp] theorem keys_nil : keys ([] : Assoc α β) = [] := rfl

omit [DecidableEq α] in
@[simp] theorem keys_cons (k : α) (v : β) (m : Assoc α β) :
    keys ((k, v) :: m) = k :: keys m := rfl

@[simp] theorem get?_set_self (m : Assoc α β) (key : α) (value : β) :
    get? (set m key value) key = some value := by
  induction m with
  | nil => simp [set, get?]
  | cons entry rest ih =>
    obtain ⟨k, v⟩ := entry
    by_cases h : k = key <;> simp [set, get?, h, ih]

theorem get?_set_of_ne (m : Assoc α β) {key other : α} (value : β) (h : other ≠ key) :
    get? (set m key value) other = get? m other := by
  induction m with
  | nil => simp [set, get?, Ne.symm h]
  | cons entry rest ih =>
    obtain ⟨k, v⟩ := entry
    by_cases hk : k = key
    · subst hk
      simp [set, get?, Ne.symm h]
    · simp [set, get?, hk, ih]

/-- The keys after setting one: unchanged if it was there, else with the key added last. -/
theorem keys_set (m : Assoc α β) (key : α) (value : β) :
    keys (set m key value) = if key ∈ keys m then keys m else keys m ++ [key] := by
  induction m with
  | nil => simp [set]
  | cons entry rest ih =>
    obtain ⟨k, v⟩ := entry
    by_cases hk : k = key
    · simp [set, hk]
    · have hk' : ¬ key = k := fun h => hk h.symm
      by_cases hm : key ∈ keys rest <;> simp [set, hk, hk', ih, hm]

end Assoc

end LibraryCalls
