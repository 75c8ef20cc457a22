import LibraryCalls.Json.Decode
import LibraryCalls.Proofs.Assoc

/-!
# JSON as it is written

Reading an object keeps the last value of a repeated name, at the place of the first.  Here is the
text before that: a value as it is written, with its members in the order of the text and all their
repetitions, and a grammar that says which value a text spells.  Strings and scalars are the tokens
of the grammar.  A name is what its string is read as, so that two names are repetitions of one only
if they are the same text of the type that is read into; among code points these are the same code
points, however they are escaped.

The grammar is an inductive relation between a text, a written value and the rest of the text, for
values, items and members together.  It looks at the text from left to right and never has a choice,
and so a text spells at most one value.  Conversely, whatever the reader takes is spelled; this is
by induction on the fuel of the reader, which does not appear in the grammar.

What the reader then does with repeated names is a separate function on written values.  This makes
it possible to speak of the order and the repetitions of names in a text, which the value no longer
shows.

* `Written`, `Written.value`: a value as it is written, and what it is read as;
* `Spells`, `SpellsText`: the grammar;
* `Spells.unique`: a text spells one value at most;
* `exists_spells`: what is read is spelled;
* `exists_spellsText`: a text that has a value spells a written value, which is read as it;
* `Spells.exists_object`: what is read as an object is written as one, with its members.
-/

namespace LibraryCalls.Json

variable {τ : Type}

/-- A value as it is written: a token, or a list or an object of such values. -/
inductive Written (τ : Type := String) where
  /-- A string, a number or a word, by its value. -/
  | token (value : Json τ)
  | list (items : List (Written τ))
  /-- The members in the order of the text, with the names that are repeated. -/
  | object (members : List (τ × Written τ))
  deriving Repr

section

variable [DecidableEq τ]

mutual

/-- What a written value is read as. -/
def Written.value : Written τ → Json τ
  | .token j => j
  | .list items => .arr (Written.valueItems items)
  | .object members => .obj (Assoc.ofPairs (Written.valueMembers members))

def Written.valueItems : List (Written τ) → List (Json τ)
  | [] => []
  | w :: rest => w.value :: Written.valueItems rest

/-- What the members of an object are read as, one by one. -/
def Written.valueMembers : List (τ × Written τ) → Assoc τ (Json τ)
  | [] => []
  | (name, w) :: rest => (name, w.value) :: Written.valueMembers rest

end

theorem Written.valueMembers_eq_map (members : List (τ × Written τ)) :
    Written.valueMembers members = members.map fun m => (m.1, m.2.value) := by
  induction members with
  | nil => rfl
  | cons m rest ih => rw [Written.valueMembers, ih, List.map_cons]

theorem Written.eq_of_value_eq_str {w : Written τ} {s : τ} (h : w.value = .str s) :
    w = .token (.str s) := by
  cases w with
  | token j => exact congrArg Written.token h
  | list items => cases h
  | object members => cases h

theorem Written.keys_valueMembers (members : List (τ × Written τ)) :
    Assoc.keys (Written.valueMembers members) = members.map Prod.fst := by
  rw [Written.valueMembers_eq_map, Assoc.keys, List.map_map]
  rfl

/-- The last value of a name is what the last value written for it is read as. -/
theorem Written.get?_reverse_valueMembers (members : List (τ × Written τ)) (name : τ) :
    Assoc.get? (Written.valueMembers members).reverse name
      = (Assoc.get? members.reverse name).map Written.value := by
  rw [Written.valueMembers_eq_map, ← List.map_reverse]
  induction members.reverse with
  | nil => rfl
  | cons m rest ih =>
    rw [List.map_cons, Assoc.get?, ih]
    obtain ⟨n, w⟩ := m
    by_cases h : n = name <;> simp [Assoc.get?, h]

end

/-! ### Scalars -/

/-- A quote, a bracket or a brace starts no scalar. -/
theorem readScalar_bracket {c : Char} (h : c ∈ ['"', '[', ']', '{', '}']) (rest : CodePoints) :
    (readScalar (.char c :: rest) : Except Fault (Json τ × CodePoints))
      = .error (.malformed .noValue (.char c :: rest)) := by
  simp only [List.mem_cons, List.not_mem_nil, or_false] at h
  rcases h with rfl | rfl | rfl | rfl | rfl <;> rfl

theorem readScalar_bracket_ne {c : Char} {rest rest' : CodePoints} {j : Json τ}
    (h : c ∈ ['"', '[', ']', '{', '}']) : readScalar (.char c :: rest) ≠ .ok (j, rest') := by
  rw [readScalar_bracket h]
  exact nofun

theorem readScalar_ne_obj {ms : List (τ × Json τ)} :
    readScalar cs ≠ .ok (.obj ms, rest) := by
  intro h
  rw [readScalar] at h
  split at h
  · next r hword =>
    obtain ⟨⟨word, j⟩, hmem, hr⟩ := List.exists_of_findSome?_eq_some hword
    obtain ⟨after, -, rfl⟩ := Option.map_eq_some_iff.1 hr
    obtain ⟨rfl, -⟩ := Prod.mk.inj (Except.ok.inj h)
    simp [words] at hmem
  · have hunsigned : ∀ start negative cs, readUnsigned start negative cs ≠ .ok (.obj ms, rest) := by
      intro start negative cs hread
      rw [readUnsigned] at hread
      split at hread
      · cases hread
      · split at hread
        · split at hread
          · cases hread
          · cases hread
        · cases hread
        · cases hread
    rw [readNumber.eq_def] at h
    split at h
    · exact hunsigned _ _ _ h
    · exact hunsigned _ _ _ h

/-! ### The grammar -/

section

variable [Textual τ]

mutual

/-- The text spells the value at its head, and the rest follows it. -/
inductive Spells : CodePoints → Written τ → CodePoints → Prop
  | string {cs rest : CodePoints} {s : τ} (read : readString (.char '"' :: cs) = .ok (s, rest)) :
    Spells (.char '"' :: cs) (.token (.str s)) rest
  | scalar {cs rest : CodePoints} {j : Json τ} (read : readScalar cs = .ok (j, rest)) :
    Spells cs (.token j) rest
  | emptyList {cs rest : CodePoints} (closed : skipSpaces cs = .char ']' :: rest) :
    Spells (.char '[' :: cs) (.list []) rest
  | list {cs rest : CodePoints} {items : List (Written τ)}
      (inside : SpellsItems (skipSpaces cs) items rest) :
      Spells (.char '[' :: cs) (.list items) rest
  | emptyObject {cs rest : CodePoints} (closed : skipSpaces cs = .char '}' :: rest) :
    Spells (.char '{' :: cs) (.object []) rest
  | object {cs rest : CodePoints} {members : List (τ × Written τ)}
      (inside : SpellsMembers (skipSpaces cs) members rest) :
    Spells (.char '{' :: cs) (.object members) rest

/-- The text spells the items of a list, up to its closing bracket. -/
inductive SpellsItems : CodePoints → List (Written τ) → CodePoints → Prop
  | last {cs after rest : CodePoints} {w : Written τ} (item : Spells cs w after)
      (closed : skipSpaces after = .char ']' :: rest) : SpellsItems cs [w] rest
  | more {cs after next rest : CodePoints} {w : Written τ} {items : List (Written τ)}
      (item : Spells cs w after) (comma : skipSpaces after = .char ',' :: next)
      (others : SpellsItems (skipSpaces next) items rest) : SpellsItems cs (w :: items) rest

/-- The text spells the members of an object, up to its closing brace. -/
inductive SpellsMembers : CodePoints → List (τ × Written τ) → CodePoints → Prop
  | last {cs named valued after rest : CodePoints} {name : τ} {w : Written τ}
      (read : readString (.char '"' :: cs) = .ok (name, named))
      (colon : skipSpaces named = .char ':' :: valued)
      (item : Spells (skipSpaces valued) w after) (closed : skipSpaces after = .char '}' :: rest) :
    SpellsMembers (.char '"' :: cs) [(name, w)] rest
  | more {cs named valued after next rest : CodePoints} {name : τ} {w : Written τ}
      {members : List (τ × Written τ)}
      (read : readString (.char '"' :: cs) = .ok (name, named))
      (colon : skipSpaces named = .char ':' :: valued)
      (item : Spells (skipSpaces valued) w after) (comma : skipSpaces after = .char ',' :: next)
      (others : SpellsMembers (skipSpaces next) members rest) :
    SpellsMembers (.char '"' :: cs) ((name, w) :: members) rest

end

/-- A whole text spells a value, with nothing but blanks around it. -/
def SpellsText (cs : CodePoints) (w : Written τ) : Prop :=
  ∃ rest, Spells (skipSpaces cs) w rest ∧ skipSpaces rest = []

/-! ### A text spells one value at most -/

theorem not_spells_closed {cs rest : CodePoints} {w : Written τ} :
    ¬ Spells (.char ']' :: cs) w rest := by
  intro h
  cases h with
  | scalar read => exact readScalar_bracket_ne (by decide) read

theorem not_spellsItems_closed {cs rest : CodePoints} {items : List (Written τ)} :
    ¬ SpellsItems (.char ']' :: cs) items rest := by
  intro h
  cases h with
  | last item _ => exact not_spells_closed item
  | more item _ _ => exact not_spells_closed item

theorem not_spellsMembers_closed {cs rest : CodePoints} {members : List (τ × Written τ)} :
    ¬ SpellsMembers (.char '}' :: cs) members rest := nofun

/-- Two readings of one token are the same. -/
theorem read_unique {α : Type} {x : Except Fault (α × CodePoints)} {a a' : α}
    {rest rest' : CodePoints} (h : x = .ok (a, rest)) (h' : x = .ok (a', rest')) :
    a = a' ∧ rest = rest' :=
  Prod.mk.inj (Except.ok.inj (h.symm.trans h'))

theorem skipSpaces_unique {cs rest rest' : CodePoints} {p p' : CodePoint}
    (h : skipSpaces cs = p :: rest) (h' : skipSpaces cs = p' :: rest') : p = p' ∧ rest = rest' :=
  List.cons.inj (h.symm.trans h')

mutual

/-- **A text spells one value at most**, and it ends at one place.  The recursion is on the first
derivation. -/
theorem Spells.unique {cs rest rest' : CodePoints} {w w' : Written τ} (h : Spells cs w rest)
    (h' : Spells cs w' rest') : w = w' ∧ rest = rest' := by
  cases h with
  | string read =>
    cases h' with
    | string read' =>
      obtain ⟨rfl, rfl⟩ := read_unique read read'
      exact ⟨rfl, rfl⟩
    | scalar read' => exact absurd read' (readScalar_bracket_ne (by decide))
  | scalar read =>
    cases h' with
    | scalar read' =>
      obtain ⟨rfl, rfl⟩ := read_unique read read'
      exact ⟨rfl, rfl⟩
    | _ => exact absurd read (readScalar_bracket_ne (by decide))
  | emptyList closed =>
    cases h' with
    | emptyList closed' => exact ⟨rfl, (skipSpaces_unique closed closed').2⟩
    | list inside' =>
      rw [closed] at inside'
      exact absurd inside' not_spellsItems_closed
    | scalar read' => exact absurd read' (readScalar_bracket_ne (by decide))
  | list inside =>
    cases h' with
    | list inside' =>
      obtain ⟨rfl, rfl⟩ := SpellsItems.unique inside inside'
      exact ⟨rfl, rfl⟩
    | emptyList closed' =>
      rw [closed'] at inside
      exact absurd inside not_spellsItems_closed
    | scalar read' => exact absurd read' (readScalar_bracket_ne (by decide))
  | emptyObject closed =>
    cases h' with
    | emptyObject closed' => exact ⟨rfl, (skipSpaces_unique closed closed').2⟩
    | object inside' =>
      rw [closed] at inside'
      exact absurd inside' not_spellsMembers_closed
    | scalar read' => exact absurd read' (readScalar_bracket_ne (by decide))
  | object inside =>
    cases h' with
    | object inside' =>
      obtain ⟨rfl, rfl⟩ := SpellsMembers.unique inside inside'
      exact ⟨rfl, rfl⟩
    | emptyObject closed' =>
      rw [closed'] at inside
      exact absurd inside not_spellsMembers_closed
    | scalar read' => exact absurd read' (readScalar_bracket_ne (by decide))

theorem SpellsItems.unique {cs rest rest' : CodePoints} {items items' : List (Written τ)}
    (h : SpellsItems cs items rest) (h' : SpellsItems cs items' rest') :
    items = items' ∧ rest = rest' := by
  cases h with
  | last item closed =>
    cases h' with
    | last item' closed' =>
      obtain ⟨rfl, rfl⟩ := Spells.unique item item'
      exact ⟨rfl, (skipSpaces_unique closed closed').2⟩
    | more item' comma' _ =>
      obtain ⟨rfl, rfl⟩ := Spells.unique item item'
      exact absurd (skipSpaces_unique closed comma').1 (by decide)
  | more item comma others =>
    cases h' with
    | last item' closed' =>
      obtain ⟨rfl, rfl⟩ := Spells.unique item item'
      exact absurd (skipSpaces_unique closed' comma).1 (by decide)
    | more item' comma' others' =>
      obtain ⟨rfl, rfl⟩ := Spells.unique item item'
      obtain ⟨-, rfl⟩ := skipSpaces_unique comma comma'
      obtain ⟨rfl, rfl⟩ := SpellsItems.unique others others'
      exact ⟨rfl, rfl⟩

theorem SpellsMembers.unique {cs rest rest' : CodePoints} {members members' : List (τ × Written τ)}
    (h : SpellsMembers cs members rest) (h' : SpellsMembers cs members' rest') :
    members = members' ∧ rest = rest' := by
  cases h with
  | last read colon item closed =>
    cases h' with
    | last read' colon' item' closed' =>
      obtain ⟨rfl, rfl⟩ := read_unique read read'
      obtain ⟨-, rfl⟩ := skipSpaces_unique colon colon'
      obtain ⟨rfl, rfl⟩ := Spells.unique item item'
      exact ⟨rfl, (skipSpaces_unique closed closed').2⟩
    | more read' colon' item' comma' _ =>
      obtain ⟨rfl, rfl⟩ := read_unique read read'
      obtain ⟨-, rfl⟩ := skipSpaces_unique colon colon'
      obtain ⟨rfl, rfl⟩ := Spells.unique item item'
      exact absurd (skipSpaces_unique closed comma').1 (by decide)
  | more read colon item comma others =>
    cases h' with
    | last read' colon' item' closed' =>
      obtain ⟨rfl, rfl⟩ := read_unique read read'
      obtain ⟨-, rfl⟩ := skipSpaces_unique colon colon'
      obtain ⟨rfl, rfl⟩ := Spells.unique item item'
      exact absurd (skipSpaces_unique closed' comma).1 (by decide)
    | more read' colon' item' comma' others' =>
      obtain ⟨rfl, rfl⟩ := read_unique read read'
      obtain ⟨-, rfl⟩ := skipSpaces_unique colon colon'
      obtain ⟨rfl, rfl⟩ := Spells.unique item item'
      obtain ⟨-, rfl⟩ := skipSpaces_unique comma comma'
      obtain ⟨rfl, rfl⟩ := SpellsMembers.unique others others'
      exact ⟨rfl, rfl⟩

end

theorem SpellsText.unique {cs : CodePoints} {w w' : Written τ} (h : SpellsText cs w)
    (h' : SpellsText cs w') : w = w' := by
  obtain ⟨rest, hspells, -⟩ := h
  obtain ⟨rest', hspells', -⟩ := h'
  exact (Spells.unique hspells hspells').1

/-! ### Members -/

/-- The values of the members of an object are spelled, too. -/
theorem SpellsMembers.spells {cs rest : CodePoints} {members : List (τ × Written τ)}
    (h : SpellsMembers cs members rest) {m : τ × Written τ} (hm : m ∈ members) :
    ∃ inner after, Spells inner m.2 after := by
  induction members generalizing cs with
  | nil => exact absurd hm List.not_mem_nil
  | cons first others ih =>
    cases h with
    | last read colon item closed =>
      obtain rfl := List.mem_singleton.1 hm
      exact ⟨_, _, item⟩
    | more read colon item comma inside =>
      rcases List.mem_cons.1 hm with rfl | hm
      · exact ⟨_, _, item⟩
      · exact ih inside hm

theorem Spells.spells_member {cs rest : CodePoints} {members : List (τ × Written τ)}
    (h : Spells cs (.object members) rest) {m : τ × Written τ} (hm : m ∈ members) :
    ∃ inner after, Spells inner m.2 after := by
  cases h with
  | emptyObject closed => exact absurd hm List.not_mem_nil
  | object inside => exact inside.spells hm

end

/-! ### What is read is spelled -/

variable {fuel : Nat} {cs rest : CodePoints}

theorem map_eq_ok {α γ : Type} {f : α → γ} {x : Except Fault (α × CodePoints)} {b : γ}
    (h : (x.map fun r => (f r.1, r.2)) = .ok (b, rest)) : ∃ a, x = .ok (a, rest) ∧ f a = b := by
  match x, h with
  | .ok (a, _), h =>
    obtain ⟨rfl, rfl⟩ := Prod.mk.inj (Except.ok.inj h)
    exact ⟨a, rfl, rfl⟩

section

variable (τ) [DecidableEq τ] [Textual τ]

/-- Each value that is read is spelled, by a written value that is read as it. -/
def ValuesSpelled (fuel : Nat) : Prop :=
  ∀ cs (j : Json τ) rest, readValue fuel cs = .ok (j, rest) → ∃ w, Spells cs w rest ∧ w.value = j

def ItemsSpelled (fuel : Nat) : Prop :=
  ∀ cs (js : List (Json τ)) rest, readItems fuel cs = .ok (js, rest) →
    ∃ items, SpellsItems cs items rest ∧ Written.valueItems items = js

def MembersSpelled (fuel : Nat) : Prop :=
  ∀ cs (ms : List (τ × Json τ)) rest, readMembers fuel cs = .ok (ms, rest) →
    ∃ members, SpellsMembers cs members rest ∧ Written.valueMembers members = ms

end

section

variable [DecidableEq τ] [Textual τ]

theorem valuesSpelled_succ (hitems : ItemsSpelled τ fuel) (hmembers : MembersSpelled τ fuel) :
    ValuesSpelled τ (fuel + 1) := by
  intro cs j rest h
  rw [readValue.eq_def] at h
  simp only at h
  split at h
  · obtain ⟨s, hread, rfl⟩ := map_eq_ok h
    exact ⟨_, .string hread, rfl⟩
  · split at h
    · next hclosed =>
      obtain ⟨rfl, rfl⟩ := Prod.mk.inj (Except.ok.inj h)
      exact ⟨_, .emptyList hclosed, rfl⟩
    · obtain ⟨js, hread, rfl⟩ := map_eq_ok h
      obtain ⟨items, hspelled, rfl⟩ := hitems _ _ _ hread
      exact ⟨_, .list hspelled, rfl⟩
  · split at h
    · next hclosed =>
      obtain ⟨rfl, rfl⟩ := Prod.mk.inj (Except.ok.inj h)
      exact ⟨_, .emptyObject hclosed, rfl⟩
    · obtain ⟨ms, hread, rfl⟩ := map_eq_ok (f := fun ms => obj (Assoc.ofPairs ms)) h
      obtain ⟨members, hspelled, rfl⟩ := hmembers _ _ _ hread
      exact ⟨_, .object hspelled, rfl⟩
  · exact ⟨_, .scalar h, rfl⟩

theorem itemsSpelled_succ (hvalues : ValuesSpelled τ fuel) (hitems : ItemsSpelled τ fuel) :
    ItemsSpelled τ (fuel + 1) := by
  intro cs js rest h
  rw [readItems] at h
  split at h
  · cases h
  · next j after hread =>
    obtain ⟨w, hitem, rfl⟩ := hvalues _ _ _ hread
    split at h
    · next hclosed =>
      obtain ⟨rfl, rfl⟩ := Prod.mk.inj (Except.ok.inj h)
      exact ⟨_, .last hitem hclosed, rfl⟩
    · next hcomma =>
      obtain ⟨others, hread, rfl⟩ := map_eq_ok h
      obtain ⟨items, hspelled, rfl⟩ := hitems _ _ _ hread
      exact ⟨_, .more hitem hcomma hspelled, rfl⟩
    · cases h

theorem membersSpelled_succ (hvalues : ValuesSpelled τ fuel) (hmembers : MembersSpelled τ fuel) :
    MembersSpelled τ (fuel + 1) := by
  intro cs ms rest h
  rw [readMembers.eq_def] at h
  simp only at h
  split at h
  · split at h
    · cases h
    · next name named hname =>
      split at h
      · next valued hcolon =>
        split at h
        · cases h
        · next j after hread =>
          obtain ⟨w, hitem, rfl⟩ := hvalues _ _ _ hread
          split at h
          · next hclosed =>
            obtain ⟨rfl, rfl⟩ := Prod.mk.inj (Except.ok.inj h)
            exact ⟨_, .last hname hcolon hitem hclosed, rfl⟩
          · next hcomma =>
            obtain ⟨others, hread, rfl⟩ := map_eq_ok h
            obtain ⟨members, hspelled, rfl⟩ := hmembers _ _ _ hread
            exact ⟨_, .more hname hcolon hitem hcomma hspelled, rfl⟩
          · cases h
      · cases h
  · cases h

/-- **What is read is spelled.**  The induction is on the bound that the three readers share. -/
theorem exists_spells (fuel : Nat) :
    ValuesSpelled τ fuel ∧ ItemsSpelled τ fuel ∧ MembersSpelled τ fuel := by
  induction fuel with
  | zero => exact ⟨nofun, nofun, nofun⟩
  | succ fuel ih =>
    obtain ⟨hvalues, hitems, hmembers⟩ := ih
    exact ⟨valuesSpelled_succ hitems hmembers, itemsSpelled_succ hvalues hitems,
      membersSpelled_succ hvalues hmembers⟩

/-- **A text that has a value** spells one written value, which is read as it. -/
theorem exists_spellsText {text : τ} {j : Json τ} (h : decode text = .ok j) :
    ∃ w, SpellsText (Textual.toPoints text) w ∧ w.value = j := by
  have hread : readText (Textual.toPoints text) = .ok j := by
    rw [decode] at h
    cases hread : (readText (Textual.toPoints text) : Except Fault (Json τ)) with
    | error e => rw [hread] at h; cases h
    | ok value => rw [hread] at h; exact congrArg Except.ok (Except.ok.inj h)
  rw [readText.eq_def] at hread
  split at hread
  · cases hread
  · split at hread
    · cases hread
    · next value rest hvalue =>
      obtain ⟨w, hspells, hw⟩ := (exists_spells _).1 _ _ _ hvalue
      split at hread
      · next hend => exact ⟨w, ⟨rest, hspells, hend⟩, hw.trans (Except.ok.inj hread)⟩
      · cases hread

/-! ### Objects -/

/-- What is read as an object is written as one. -/
theorem Spells.exists_object {w : Written τ} {ms : List (τ × Json τ)}
    (h : Spells cs w rest) (hvalue : w.value = .obj ms) :
    ∃ members, w = .object members ∧ Assoc.ofPairs (Written.valueMembers members) = ms := by
  cases h with
  | string read => cases hvalue
  | scalar read =>
    obtain rfl : _ = Json.obj ms := hvalue
    exact absurd read readScalar_ne_obj
  | emptyList closed => cases hvalue
  | list inside => cases hvalue
  | emptyObject closed => exact ⟨[], rfl, Json.obj.inj hvalue⟩
  | object inside => exact ⟨_, rfl, Json.obj.inj hvalue⟩

end

end LibraryCalls.Json
