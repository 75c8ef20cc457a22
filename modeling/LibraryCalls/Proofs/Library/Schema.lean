import LibraryCalls.Library.Descriptor
import LibraryCalls.Proofs.Assoc
import Mathlib.Data.List.Perm.Basic

/-!
# The schema of a descriptor

A descriptor has ten fields, each with a shape, and two of them with two spellings.  The schema says
so as a table: a fault is a value of another shape, counted item by item in a list or an object of
texts, and a missing field has none.  Checking an object follows this table and nothing else,
so that names which are not in the table, and the order of the names, do not matter.

The table replaces ten pieces of code that differ in a name and a shape.  For each shape there is
one lemma that says what reading a field of this shape finds, and for the table one lemma that puts
the fields together; a further field would be a line of the table and a line of the proof.

Counting faults and giving values are functions of the table and of the object.  That names outside
of the table do not matter, and that the order of names does not, is therefore seen from the way in
which a field is looked up.

* `Schema.Shape`, `Schema.Field`, `Schema.fields`: the table;
* `Schema.faults`, `Schema.given`: the faults of an object and the values of its fields;
* `Descriptor.values`: the fields of a descriptor as JSON values, `values_injective`;
* `faults_check`, `values_check`: checking an object against the table;
* `Descriptor.ofJson_follows_schema`: which objects are descriptors, and of what.
-/

namespace LibraryCalls

variable {τ : Type}

/-! ### The table -/

namespace Schema

/-- What the value of a field must be. -/
inductive Shape where
  /-- A text, or null. -/
  | text
  /-- An object whose members are texts. -/
  | textMap
  /-- A list of texts. -/
  | textList
  deriving DecidableEq, Repr

def isText : Json τ → Bool
  | .str _ => true
  | _ => false

/-- The faults of a value that should have a shape. -/
def Shape.faults : Shape → Json τ → Nat
  | .text, .null => 0
  | .text, .str _ => 0
  | .text, _ => 1
  | .textMap, .obj members => members.countP fun m => !isText m.2
  | .textMap, _ => 1
  | .textList, .arr items => items.countP fun j => !isText j
  | .textList, _ => 1

/-- The value that stands for a missing field. -/
def Shape.absent : Shape → Json τ
  | .text => .null
  | .textMap => .obj []
  | .textList => .arr []

/-- The faults of a field, which has none when it is missing. -/
def Shape.faultsOf (shape : Shape) : Option (Json τ) → Nat
  | none => 0
  | some j => shape.faults j

/-- A field by its spellings, of which the first one found counts, and its shape. -/
structure Field where
  spellings : List String
  shape : Shape

def fields : List Field :=
  [⟨["description"], .text⟩, ⟨["link"], .text⟩,
    ⟨["minKernelVersion", "min_kernel_version"], .text⟩, ⟨["properties"], .textMap⟩,
    ⟨["repositories"], .textList⟩, ⟨["dependencies"], .textList⟩, ⟨["imports"], .textList⟩,
    ⟨["init"], .textList⟩, ⟨["initCell", "init_cell"], .textList⟩, ⟨["shutdown"], .textList⟩]

def names : List String :=
  fields.flatMap Field.spellings

section

variable [DecidableEq τ] [Textual τ]

def Field.value? (field : Field) (members : Assoc τ (Json τ)) : Option (Json τ) :=
  field.spellings.findSome? fun name => members.get? (Textual.ofString name)

/-- **The faults of an object**: those of its fields. -/
def faults (members : Assoc τ (Json τ)) : Nat :=
  (fields.map fun field => field.shape.faultsOf (field.value? members)).foldr (· + ·) 0

/-- The values that an object gives to the fields. -/
def given (members : Assoc τ (Json τ)) : List (Json τ) :=
  fields.map fun field => (field.value? members).getD field.shape.absent

def known (members : Assoc τ (Json τ)) : Assoc τ (Json τ) :=
  members.filter fun m => m.1 ∈ names.map Textual.ofString

end

def ofText? : Option τ → Json τ
  | none => .null
  | some s => .str s

def ofTextMap (texts : Assoc τ τ) : Json τ :=
  .obj (texts.map fun p => (p.1, .str p.2))

def ofTextList (texts : List τ) : Json τ :=
  .arr (texts.map .str)

end Schema

open Schema

/-- The fields of a descriptor as values, in the order of the table. -/
def Descriptor.values (d : Descriptor τ) : List (Json τ) :=
  [ofText? d.description, ofText? d.link, ofText? d.minKernelVersion, ofTextMap d.properties,
    ofTextList d.definition.repositories, ofTextList d.definition.dependencies,
    ofTextList d.definition.imports, ofTextList d.definition.init, ofTextList d.definition.initCell,
    ofTextList d.definition.shutdown]

/-! ### Shapes -/

namespace Schema

/-- Reading a field follows a shape: it finds the faults of the shape, and without faults the value
that is given. -/
def Follows {α : Type} (shape : Shape) (read : Option (Json τ) → Checked α)
    (write : α → Json τ) : Prop :=
  ∀ j, (read j).faults = shape.faultsOf j ∧
    (shape.faultsOf j = 0 → write (read j).value = j.getD shape.absent)

theorem isNone_text? (j : Json τ) : (Checked.text? j).isNone = !isText j := by
  cases j <;> rfl

theorem exists_text_of_isText {j : Json τ} (h : isText j = true) : ∃ s, j = .str s := by
  cases j with
  | str s => exact ⟨s, rfl⟩
  | _ => exact absurd h Bool.false_ne_true

theorem follows_optionalText : Follows (τ := τ) .text Checked.optionalText ofText? := by
  intro j
  cases j with
  | none => exact ⟨rfl, fun _ => rfl⟩
  | some value =>
    cases value with
    | null => exact ⟨rfl, fun _ => rfl⟩
    | str s => exact ⟨rfl, fun _ => rfl⟩
    | _ => exact ⟨rfl, fun h => absurd h Nat.one_ne_zero⟩

theorem map_str_filterMap {items : List (Json τ)} (h : ∀ j ∈ items, isText j = true) :
    (items.filterMap Checked.text?).map .str = items := by
  induction items with
  | nil => rfl
  | cons j rest ih =>
    obtain ⟨s, rfl⟩ := exists_text_of_isText (h j List.mem_cons_self)
    have hrest := ih fun j' hj => h j' (List.mem_cons_of_mem _ hj)
    rw [List.filterMap_cons_some (show Checked.text? (.str s) = some s from rfl), List.map_cons,
      hrest]

/-- Members that are all texts are read as these texts, under their names. -/
theorem map_str_filterMap_members {members : Assoc τ (Json τ)}
    (h : ∀ m ∈ members, isText m.2 = true) :
    (members.filterMap fun m => (Checked.text? m.2).map (m.1, ·)).map (fun p => (p.1, .str p.2))
      = members := by
  induction members with
  | nil => rfl
  | cons m rest ih =>
    obtain ⟨name, j⟩ := m
    obtain ⟨s, rfl⟩ := exists_text_of_isText (h _ List.mem_cons_self)
    have hrest := ih fun m' hm => h m' (List.mem_cons_of_mem _ hm)
    have htext : (Checked.text? (Json.str s)).map (name, ·) = some (name, s) := rfl
    rw [List.filterMap_cons, htext]
    exact congrArg (List.cons (name, Json.str s)) hrest

theorem follows_textList : Follows (τ := τ) .textList Checked.textList ofTextList := by
  intro j
  cases j with
  | none => exact ⟨rfl, fun _ => rfl⟩
  | some value =>
    cases value with
    | arr items =>
      refine ⟨congrArg (List.countP · items) (funext isNone_text?), ?_⟩
      intro h
      have htexts : ∀ j ∈ items, isText j = true := by
        intro j hj
        simpa using List.countP_eq_zero.1 h j hj
      exact congrArg Json.arr (map_str_filterMap htexts)
    | _ => exact ⟨rfl, fun h => absurd h Nat.one_ne_zero⟩

theorem follows_textMap : Follows (τ := τ) .textMap Checked.textMap ofTextMap := by
  intro j
  cases j with
  | none => exact ⟨rfl, fun _ => rfl⟩
  | some value =>
    cases value with
    | obj members =>
      refine ⟨congrArg (List.countP · members) (funext fun m => isNone_text? m.2), ?_⟩
      intro h
      have htexts : ∀ m ∈ members, isText m.2 = true := by
        intro m hm
        simpa using List.countP_eq_zero.1 h m hm
      exact congrArg Json.obj (map_str_filterMap_members htexts)
    | _ => exact ⟨rfl, fun h => absurd h Nat.one_ne_zero⟩

/-! ### Values of a descriptor -/

theorem ofText?_injective : Function.Injective (ofText? (τ := τ)) := by
  intro a b h
  cases a <;> cases b <;> simp_all [ofText?]

theorem ofTextMap_injective : Function.Injective (ofTextMap (τ := τ)) := by
  intro a b h
  refine List.map_injective_iff.2 ?_ (Json.obj.inj h)
  rintro ⟨n, s⟩ ⟨n', s'⟩ heq
  obtain ⟨hname, hs⟩ := Prod.mk.inj heq
  exact Prod.ext hname (Json.str.inj hs)

theorem ofTextList_injective : Function.Injective (ofTextList (τ := τ)) := by
  intro a b h
  exact List.map_injective_iff.2 (fun _ _ => Json.str.inj) (Json.arr.inj h)

end Schema

/-- **A descriptor is its values.** -/
theorem Descriptor.values_injective :
    Function.Injective (Descriptor.values (τ := τ)) := by
  intro d d' h
  obtain ⟨description, link, version, properties, ⟨_, _, _, _, _, _⟩⟩ := d
  obtain ⟨description', link', version', properties', ⟨_, _, _, _, _, _⟩⟩ := d'
  simp only [Descriptor.values, List.cons.injEq, ofText?_injective.eq_iff,
    ofTextMap_injective.eq_iff, ofTextList_injective.eq_iff] at h
  obtain ⟨rfl, rfl, rfl, rfl, rfl, rfl, rfl, rfl, rfl, rfl, -⟩ := h
  rfl

/-! ### Checking an object -/

namespace Schema

variable [DecidableEq τ] [Textual τ] {members members' : Assoc τ (Json τ)}

theorem value?_single (name : String) (shape : Shape) :
    Field.value? ⟨[name], shape⟩ members = members.get? (Textual.ofString name) := by
  rw [Field.value?, List.findSome?_singleton]

theorem value?_pair (name other : String) (shape : Shape) :
    Field.value? ⟨[name, other], shape⟩ members
      = (members.get? (Textual.ofString name)).or (members.get? (Textual.ofString other)) := by
  rw [Field.value?, List.findSome?_cons]
  cases members.get? (Textual.ofString name) with
  | none => rw [List.findSome?_singleton, Option.none_or]
  | some value => rfl

/-- **Checking finds the faults of the table.** -/
theorem faults_check (members : Assoc τ (Json τ)) :
    (Descriptor.check (.obj members)).faults = faults members := by
  simp only [Descriptor.check, Descriptor.checkDefinition, Descriptor.fieldOr?,
    Descriptor.field?, Json.member?, Json.members, faults, fields, List.map_cons, List.map_nil,
    List.foldr_cons, List.foldr_nil, value?_single, value?_pair, (follows_optionalText _).1,
    (follows_textMap _).1,
    (follows_textList _).1]
  omega

/-- **Without faults the descriptor has the values that are given.** -/
theorem values_check (h : faults members = 0) :
    (Descriptor.check (.obj members)).value.values = given members := by
  simp only [faults, fields, List.map_cons, List.map_nil, List.foldr_cons, List.foldr_nil,
    value?_single, value?_pair, Nat.add_eq_zero_iff] at h
  obtain ⟨hdescription, hlink, hversion, hproperties, hrepositories, hdependencies, himports, hinit,
    hcell, hshutdown, -⟩ := h
  simp only [Descriptor.check, Descriptor.checkDefinition, Descriptor.fieldOr?,
    Descriptor.field?, Json.member?, Json.members, Descriptor.values, given, fields,
    List.map_cons, List.map_nil, value?_single, value?_pair,
    (follows_optionalText _).2 hdescription, (follows_optionalText _).2 hlink,
    (follows_optionalText _).2 hversion, (follows_textMap _).2 hproperties,
    (follows_textList _).2 hrepositories, (follows_textList _).2 hdependencies,
    (follows_textList _).2 himports, (follows_textList _).2 hinit, (follows_textList _).2 hcell,
    (follows_textList _).2 hshutdown]

/-! ### What does not matter -/

/-- Objects that agree on the known names agree on each field. -/
theorem value?_congr
    (h : ∀ name ∈ names,
      members.get? (Textual.ofString name) = members'.get? (Textual.ofString name))
    {field : Field} (hfield : field ∈ fields) : field.value? members = field.value? members' := by
  have hspellings : ∀ name ∈ field.spellings,
      members.get? (Textual.ofString name) = members'.get? (Textual.ofString name) :=
    fun name hname => h name (List.mem_flatMap.2 ⟨field, hfield, hname⟩)
  rw [Field.value?, Field.value?, ← List.head?_filterMap, ← List.head?_filterMap,
    List.filterMap_congr hspellings]

theorem get?_known {name : String} (h : name ∈ names) :
    (known members).get? (Textual.ofString name) = members.get? (Textual.ofString name) :=
  Assoc.get?_filter_keys (fun n => decide (n ∈ names.map Textual.ofString))
    (decide_eq_true (List.mem_map_of_mem h))

/-- **Objects with the same known members agree on the known names**, in whatever order the members
stand. -/
theorem get?_of_perm_known (hnodup : members.keys.Nodup)
    (hperm : (known members).Perm (known members')) {name : String} (h : name ∈ names) :
    members'.get? (Textual.ofString name) = members.get? (Textual.ofString name) := by
  have hknown : (known members).keys.Nodup := hnodup.sublist (List.filter_sublist.map Prod.fst)
  calc members'.get? (Textual.ofString name)
      = (known members').get? (Textual.ofString name) := (get?_known h).symm
    _ = (known members).get? (Textual.ofString name) := Assoc.get?_perm hperm hknown
    _ = members.get? (Textual.ofString name) := get?_known h

theorem faults_of_perm_known (hnodup : members.keys.Nodup)
    (hperm : (known members).Perm (known members')) : faults members' = faults members := by
  rw [faults, faults, List.map_congr_left]
  intro field hfield
  rw [value?_congr (fun _ => get?_of_perm_known hnodup hperm) hfield]

theorem given_of_perm_known (hnodup : members.keys.Nodup)
    (hperm : (known members).Perm (known members')) : given members' = given members := by
  rw [given, given, List.map_congr_left]
  intro field hfield
  rw [value?_congr (fun _ => get?_of_perm_known hnodup hperm) hfield]

end Schema

/-! ### Descriptors -/

namespace Descriptor

section

variable [DecidableEq τ] [Textual τ] {members members' : Assoc τ (Json τ)}

theorem ofJson_of_faults (name : Option τ) (h : faults members ≠ 0) :
    ofJson name (.obj members) = .error ⟨name, .faulty (faults members)⟩ := by
  rw [ofJson, Checked.toExcept, faults_check, if_neg h]
  rfl

theorem ofJson_of_no_faults (name : Option τ) (h : faults members = 0) :
    ofJson name (.obj members) = .ok (check (.obj members)).value := by
  rw [ofJson, Checked.toExcept, faults_check, if_pos h]
  rfl

/-- **The descriptor of an object**: there is one if the object has no faults, and it is the one
with the values that are given. -/
theorem ofJson_eq_ok_iff {name : Option τ} {d : Descriptor τ} :
    ofJson name (.obj members) = .ok d ↔ faults members = 0 ∧ d.values = given members := by
  by_cases h : faults members = 0
  · rw [ofJson_of_no_faults name h, Except.ok.injEq, ← values_check h, values_injective.eq_iff,
      eq_comm]
    exact (and_iff_right h).symm
  · rw [ofJson_of_faults name h]
    exact iff_of_false nofun fun hd => h hd.1

/-- Two objects with the same faults and the same values are the same descriptor, or none for the
same reason. -/
theorem ofJson_congr (name : Option τ) (hfaults : faults members' = faults members)
    (hgiven : given members' = given members) :
    ofJson name (.obj members') = ofJson name (.obj members) := by
  by_cases h : faults members = 0
  · rw [ofJson_of_no_faults name h, ofJson_eq_ok_iff, hfaults, hgiven]
    exact ⟨h, values_check h⟩
  · rw [ofJson_of_faults name h, ofJson_of_faults name (hfaults ▸ h), hfaults]

end

/-- The wording for an object with faults says how many there are. -/
theorem message_faulty (name : Option String) (n : Nat) :
    ∃ label : String,
      Error.message ⟨name, .faulty n⟩ = s!"Invalid descriptor{label} schema: {n} error(s)" := by
  cases name with
  | none => exact ⟨"", rfl⟩
  | some library =>
    by_cases hempty : library = ""
    · refine ⟨"", ?_⟩
      simp only [Error.message, if_pos hempty]
      rfl
    · refine ⟨s!" '{library}'", ?_⟩
      simp only [Error.message, if_neg hempty]
      rw [← String.toList_inj]
      simp [toString]

/-- **Which objects are descriptors.**  An object is a descriptor if and only if it has no faults by
the schema, and then its fields have the values that are given; an object with faults is rejected
with their number.  Members with unknown names, and the order of the members, do not matter. -/
theorem ofJson_follows_schema (name : Option String) (members : Assoc String Json) :
    ((∃ d, ofJson name (.obj members) = .ok d) ↔ faults members = 0) ∧
    (faults members ≠ 0 →
      ofJson name (.obj members) = .error ⟨name, .faulty (faults members)⟩ ∧
      ∃ label : String, Error.message ⟨name, .faulty (faults members)⟩
        = s!"Invalid descriptor{label} schema: {faults members} error(s)") ∧
    (∀ d, ofJson name (.obj members) = .ok d ↔ faults members = 0 ∧ d.values = given members) ∧
    (members.keys.Nodup → ∀ members', (known members).Perm (known members') →
      faults members' = faults members ∧
      ofJson name (.obj members') = ofJson name (.obj members)) := by
  refine ⟨⟨?_, ?_⟩, ?_, ?_, ?_⟩
  · rintro ⟨d, hd⟩
    exact (ofJson_eq_ok_iff.1 hd).1
  · intro h
    exact ⟨_, ofJson_of_no_faults name h⟩
  · intro h
    exact ⟨ofJson_of_faults name h, message_faulty name (faults members)⟩
  · exact fun d => ofJson_eq_ok_iff
  · intro hnodup members' hperm
    have hfaults := faults_of_perm_known hnodup hperm
    exact ⟨hfaults, ofJson_congr name hfaults (given_of_perm_known hnodup hperm)⟩

/-- Faults in two fields, one of them in its second spelling, with the names the other way round and
a name that is unknown. -/
theorem ofJson_follows_schema_faulty :
    faults [("init_cell", .arr [.null, .str "a", .int 1]), ("x", .null), ("link", .bool true)] = 3 ∧
    ofJson (some "lib")
        (.obj [("init_cell", .arr [.null, .str "a", .int 1]), ("x", .null), ("link", .bool true)])
      = .error ⟨some "lib", .faulty 3⟩ ∧
    ofJson (some "lib")
        (.obj [("link", .bool true), ("init_cell", .arr [.null, .str "a", .int 1])])
      = .error ⟨some "lib", .faulty 3⟩ := by
  have hfaults :
      faults [("init_cell", .arr [.null, .str "a", .int 1]), ("x", .null), ("link", .bool true)]
        = 3 := by decide
  obtain ⟨-, hrejected, -, hother⟩ := ofJson_follows_schema (some "lib")
    [("init_cell", .arr [.null, .str "a", .int 1]), ("x", .null), ("link", .bool true)]
  have herror := (hrejected (by rw [hfaults]; decide)).1
  rw [hfaults] at herror
  have hsame := (hother (by decide)
    [("link", .bool true), ("init_cell", .arr [.null, .str "a", .int 1])] (List.Perm.swap _ _ _)).2
  exact ⟨hfaults, herror, hsame.trans herror⟩

/-- The second spelling is not looked at when the first is there. -/
example : ofJson none (.obj [("min_kernel_version", .int 1), ("minKernelVersion", .str "0.8")])
    = .ok { minKernelVersion := some "0.8" } := rfl

end Descriptor

end LibraryCalls
