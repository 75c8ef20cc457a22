import Mathlib
import LibraryCalls.Proofs.Placeholder.Occurrence

/-!
# Texts as templates

A text is made of its placeholders and of the literal texts around them, and in one way only.
Substitution keeps the literal texts and puts a value in the place of each placeholder; a value is
put in as it is, whatever it looks like.

A template is not unique as a way to make up a text, since a placeholder can also be part of a
literal text; it is unique once its placeholders are required to be all those that stand in the
text.  Existence is read off from the parts of the scan, uniqueness from the positions: parts with
the same text and the same positions are the same.

Outcomes under both policies are then given in terms of the template, without mention of the scan.

* `Template`, `Template.Splits`: literal texts with placeholders between them, and when they are
  those of a text;
* `Template.ofParts_parts`, `Template.parts_ofParts`: templates and the parts of the scan;
* `eq_of_marks_eq`: parts are determined by their text and the positions of the placeholders;
* `substitute_template`: every text has one template, and what substitution makes of it.
-/

namespace LibraryCalls.Placeholder

/-! ### Templates -/

def placeholder (name : String) : String :=
  String.ofList (written name)

/-- A literal text and the placeholders behind it, each by its name and with the literal text that
follows it. -/
structure Template where
  opening : String
  rest : List (String × String)
  deriving DecidableEq, Repr

namespace Template

variable {t t' : Template}

/-- The text of a template with something put in the place of each placeholder. -/
def render (put : String → String) (t : Template) : String :=
  t.opening ++ String.join (t.rest.map fun p => put p.1 ++ p.2)

def source (t : Template) : String :=
  t.render placeholder

/-- The text of a template with the values put in; a placeholder without a value stays. -/
def filled (mapping : Assoc String String) (t : Template) : String :=
  t.render fun name => (mapping.get? name).getD (placeholder name)

def names (t : Template) : List String :=
  t.rest.map Prod.fst

def parts (t : Template) : List Piece :=
  t.opening.toList.map .char ++ t.rest.flatMap fun p => .hole p.1 :: p.2.toList.map .char

/-- The positions and names of the placeholders of a template. -/
def marks (t : Template) : List (Nat × String) :=
  Placeholder.marks 0 t.parts

/-- A template is that of a text: it makes up the text, and its placeholders are exactly those that
stand in the text, each at its position. -/
structure Splits (t : Template) (text : String) : Prop where
  source_eq : t.source = text
  mem_marks_iff : ∀ i name, (i, name) ∈ t.marks ↔ IsName name ∧ StandsAt name text.toList i

def ofParts : List Piece → Template
  | [] => ⟨"", []⟩
  | .char c :: ps => ⟨String.ofList (c :: (ofParts ps).opening.toList), (ofParts ps).rest⟩
  | .hole name :: ps => ⟨"", (name, (ofParts ps).opening) :: (ofParts ps).rest⟩

theorem parts_ofParts (ps : List Piece) : (ofParts ps).parts = ps := by
  induction ps with
  | nil => rfl
  | cons p ps ih =>
    rw [parts] at ih
    cases p with
    | char c =>
      rw [ofParts, parts, String.toList_ofList, List.map_cons, List.cons_append, ih]
    | hole name =>
      rw [ofParts, parts, List.flatMap_cons, List.cons_append, ih]
      rfl

/-- Characters in front of a template belong to its first literal text. -/
theorem ofParts_chars (cs : List Char) (ps : List Piece) :
    ofParts (cs.map .char ++ ps)
      = ⟨String.ofList (cs ++ (ofParts ps).opening.toList), (ofParts ps).rest⟩ := by
  induction cs with
  | nil => simp
  | cons c cs ih => simp [ofParts, ih]

theorem ofParts_parts (t : Template) : ofParts t.parts = t := by
  have hrest : ∀ rest : List (String × String),
      ofParts (rest.flatMap fun p => .hole p.1 :: p.2.toList.map .char) = ⟨"", rest⟩ := by
    intro rest
    induction rest with
    | nil => rfl
    | cons p rest ih =>
      rw [List.flatMap_cons, List.cons_append, ofParts, ofParts_chars, ih]
      simp
  rw [parts, ofParts_chars, hrest]
  simp

theorem parts_injective (h : t.parts = t'.parts) : t = t' := by
  rw [← ofParts_parts t, h, ofParts_parts]

/-! ### The text of the parts -/

/-- A part with something put in its place, if it is a placeholder. -/
def putPart (put : String → String) : Piece → List Char
  | .char c => [c]
  | .hole name => (put name).toList

theorem toList_render (put : String → String) (t : Template) :
    (t.render put).toList = t.parts.flatMap (putPart put) := by
  have hchars : ∀ cs : List Char, (cs.map Piece.char).flatMap (putPart put) = cs := by
    intro cs
    rw [List.flatMap_map]
    exact List.flatMap_singleton' cs
  have hrest : ∀ rest : List (String × String),
      (String.join (rest.map fun p => put p.1 ++ p.2)).toList
        = (rest.flatMap fun p => Piece.hole p.1 :: p.2.toList.map .char).flatMap (putPart put) := by
    intro rest
    rw [String.toList_join, List.flatMap_map, List.flatMap_assoc]
    refine List.flatMap_congr fun p _ => ?_
    rw [List.flatMap_cons, hchars, String.toList_append]
    rfl
  rw [render, parts, String.toList_append, List.flatMap_append, hchars, hrest]

theorem toList_source (t : Template) : t.source.toList = t.parts.flatMap Piece.source := by
  rw [source, toList_render]
  refine List.flatMap_congr fun p _ => ?_
  cases p with
  | char c => rfl
  | hole name => exact String.toList_ofList

theorem toList_filled (mapping : Assoc String String) (t : Template) :
    (t.filled mapping).toList = t.parts.flatMap (Piece.fill mapping) := by
  rw [filled, toList_render]
  refine List.flatMap_congr fun p _ => ?_
  cases p with
  | char c => rfl
  | hole name =>
    cases h : mapping.get? name with
    | some value => simp [putPart, Piece.fill, h]
    | none => simp [putPart, Piece.fill, h, placeholder]

theorem filterMap_name?_parts (t : Template) : t.parts.filterMap Piece.name? = t.names := by
  have hchars : ∀ cs : List Char, (cs.map Piece.char).filterMap Piece.name? = [] := by
    intro cs
    rw [List.filterMap_map]
    exact List.filterMap_eq_nil_iff.2 fun _ _ => rfl
  have hrest : ∀ rest : List (String × String),
      (rest.flatMap fun p => Piece.hole p.1 :: p.2.toList.map .char).filterMap Piece.name?
        = rest.map Prod.fst := by
    intro rest
    induction rest with
    | nil => rfl
    | cons p rest ih =>
      have hhole : Piece.name? (.hole p.1) = some p.1 := rfl
      rw [List.flatMap_cons, List.cons_append, List.filterMap_cons_some hhole,
        List.filterMap_append, hchars, ih]
      rfl
  rw [parts, List.filterMap_append, hchars, hrest]
  rfl

end Template

/-! ### One template for each text -/

/-- **Parts are determined by their text and their placeholders' positions.** -/
theorem eq_of_marks_eq {i : Nat} {ps qs : List Piece}
    (hsource : ps.flatMap Piece.source = qs.flatMap Piece.source)
    (hmarks : marks i ps = marks i qs) :
    ps = qs := by
  induction ps generalizing i qs with
  | nil =>
    cases qs with
    | nil => rfl
    | cons q qs => cases q <;> simp [Piece.source, written] at hsource
  | cons p ps ih =>
    cases qs with
    | nil => cases p <;> simp [Piece.source, written] at hsource
    | cons q qs =>
      -- a placeholder on one side only would stand at `i` and, by the other side, behind it
      have hbehind : ∀ {name : String} {rs : List Piece}, (i, name) ∉ marks (i + 1) rs :=
        fun h => absurd (le_of_mem_marks h) (by omega)
      cases p with
      | char c =>
        cases q with
        | char d =>
          obtain ⟨rfl, htail⟩ := List.cons.inj hsource
          rw [ih htail hmarks]
        | hole name =>
          rw [marks, marks] at hmarks
          exact absurd (hmarks ▸ List.mem_cons_self) hbehind
      | hole name =>
        cases q with
        | char d =>
          rw [marks, marks] at hmarks
          exact absurd (hmarks ▸ List.mem_cons_self) hbehind
        | hole other =>
          rw [marks, marks] at hmarks
          obtain ⟨hhead, htail⟩ := List.cons.inj hmarks
          obtain ⟨-, rfl⟩ := Prod.mk.inj hhead
          rw [List.flatMap_cons, List.flatMap_cons] at hsource
          rw [ih (List.append_cancel_left hsource) htail]

theorem Template.Splits.parts_eq {t : Template} {text : String} (h : t.Splits text) :
    t.parts = pieces text.toList := by
  refine eq_of_marks_eq (i := 0) ?_ ?_
  · rw [← toList_source, h.source_eq, flatMap_source_pieces]
  · have hirrefl : Std.Irrefl fun a b : Nat × String => a.1 < b.1 := ⟨fun a => Nat.lt_irrefl a.1⟩
    have hantisymm : Std.Antisymm fun a b : Nat × String => a.1 < b.1 :=
      ⟨fun a b hab hba => absurd hab (Nat.lt_asymm hba)⟩
    refine (pairwise_marks 0 _).eq_of_mem_iff (pairwise_marks 0 _) fun m => ?_
    obtain ⟨i, name⟩ := m
    exact (h.mem_marks_iff i name).trans mem_marks_pieces_iff.symm

theorem splits_ofParts (text : String) : (Template.ofParts (pieces text.toList)).Splits text where
  source_eq := by
    rw [← String.toList_inj, Template.toList_source, Template.parts_ofParts, flatMap_source_pieces]
  mem_marks_iff i name := by
    rw [Template.marks, Template.parts_ofParts]
    exact mem_marks_pieces_iff

/-! ### Substitution -/

variable {mapping other : Assoc String String} {text : String}

/-- Only the values of the text's own names count. -/
theorem fill_congr (h : ∀ name ∈ names text, mapping.get? name = other.get? name) :
    fill mapping text = fill other text := by
  rw [fill, fill]
  refine congrArg String.ofList (List.flatMap_congr fun piece hpiece => ?_)
  cases piece with
  | char c => rfl
  | hole name => rw [Piece.fill, Piece.fill, h name (mem_names_iff.2 hpiece)]

/-- **Mappings that agree on the names of a text** have the same outcome. -/
theorem substitute_congr (policy : Policy)
    (h : ∀ name ∈ names text, mapping.get? name = other.get? name) :
    substitute policy mapping text = substitute policy other text := by
  have hmissing : missing mapping text = missing other text := by
    rw [missing, missing]
    refine List.filter_congr fun name hname => ?_
    rw [Assoc.contains, Assoc.contains, h name hname]
  cases policy with
  | lenient => rw [substitute, substitute, fill_congr h]
  | strict => rw [substitute, substitute, hmissing, fill_congr h]

namespace Template.Splits

variable {t : Template}

theorem fill_eq (h : t.Splits text) (mapping : Assoc String String) :
    fill mapping text = t.filled mapping := by
  rw [← String.toList_inj, fill, String.toList_ofList, toList_filled, h.parts_eq]

theorem missing_eq (h : t.Splits text) (mapping : Assoc String String) :
    missing mapping text = (t.names.filter fun name => name ∉ mapping.keys).eraseDups := by
  have hholes : (pieces text.toList).filterMap Piece.name? = t.names := by
    rw [← h.parts_eq, filterMap_name?_parts]
  rw [missing_eq_filter_keys, Placeholder.names, hholes, ← firstOccurrences_filter,
    firstOccurrences_eq_eraseDups]

theorem missing_eq_nil_iff (h : t.Splits text) (mapping : Assoc String String) :
    missing mapping text = [] ↔ ∀ name ∈ t.names, name ∈ mapping.keys := by
  rw [h.missing_eq, ← firstOccurrences_eq_eraseDups, firstOccurrences_filter,
    List.filter_eq_nil_iff]
  simp only [mem_firstOccurrences, decide_eq_true_eq, Decidable.not_not]

end Template.Splits

/-- **What substitution makes of a text.**  Every text is in one way a sequence of literal texts
with placeholders between them, the placeholders being all those that stand in it.  The lenient
policy puts each value verbatim in the place of its placeholder and leaves the other placeholders.
The strict policy gives the same text if every placeholder has a value; otherwise it names those
that have none, each once in the order of the first occurrences, and the text.  Hence only the
values of the text's own names count. -/
theorem substitute_template (text : String) :
    ∃ t : Template, t.Splits text ∧ (∀ t' : Template, t'.Splits text → t' = t) ∧
      (∀ mapping, substitute .lenient mapping text = .ok (t.filled mapping)) ∧
      (∀ mapping, substitute .strict mapping text =
        if ∀ name ∈ t.names, name ∈ mapping.keys then .ok (t.filled mapping)
        else .error ⟨(t.names.filter fun name => name ∉ mapping.keys).eraseDups, text⟩) ∧
      ∀ policy mapping other, (∀ name ∈ names text, mapping.get? name = other.get? name) →
        substitute policy mapping text = substitute policy other text := by
  have hsplits := splits_ofParts text
  refine ⟨_, hsplits, fun t' ht' => ?_, fun mapping => ?_, fun mapping => ?_,
    fun policy mapping other => substitute_congr policy⟩
  · exact Template.parts_injective (ht'.parts_eq.trans hsplits.parts_eq.symm)
  · rw [substitute, hsplits.fill_eq]
  · rw [substitute, hsplits.fill_eq, ← hsplits.missing_eq]
    exact if_congr (hsplits.missing_eq_nil_iff mapping) rfl rfl

/-- Values that look like placeholders are not replaced in their turn. -/
example : substitute .strict [("a", "$\x7bb\x7d"), ("b", "$")] "$\x7ba\x7d$\x7bb\x7d\x7ba\x7d"
    = .ok "$\x7bb\x7d$\x7ba\x7d" := by cbv

end LibraryCalls.Placeholder
