import LibraryCalls.Json.Decode
import LibraryCalls.Library.Definition
import LibraryCalls.Library.Parameter

/-!
# Library descriptors

A descriptor is the JSON object that describes a library: what it is, the parameters of its calls,
and its definition.  Names that are not fields of a descriptor are passed over.  A descriptor keeps
the texts of its JSON as they are, of whichever type they have been read into, so that two names are
one parameter only if they are one text.

A field that is missing has a value that stands for it: an empty list, an empty object, nothing for
a text.  A field that is there and has the wrong shape is a fault, and a list or an object with
several wrong items has as many faults.  All faults of an object are counted, not only the first,
since the message says how many there are.

A whole number that is too long is no fault of the descriptor but of the reading, and it is kept
apart in `Descriptor.ParseError`.

* `Checked`: a value together with the number of faults found on the way to it;
* `Descriptor.check`: the descriptor in a JSON value, and its faults;
* `Descriptor.ofJson`, `Descriptor.parse`: the descriptor, or why there is none;
* `Descriptor.parameters`: the parameters in the order of their declaration;
* `Descriptor.Error`, `Descriptor.ParseError`: why an object is rejected, and why a text cannot be
  read.
-/

namespace LibraryCalls

variable {τ : Type}

/-- The description of a library. -/
structure Descriptor (τ : Type := String) where
  description : Option τ := none
  link : Option τ := none
  minKernelVersion : Option τ := none
  /-- The parameters with their defaults, in the order of their declaration. -/
  properties : Assoc τ τ := []
  definition : Definition τ := {}
  deriving DecidableEq, Repr, Inhabited

/-! ### Checking fields -/

/-- A value and the number of faults found on the way to it.  With no fault the value is what was
read; otherwise it is what could be saved. -/
structure Checked (α : Type) where
  value : α
  faults : Nat

namespace Checked

def toExcept {α : Type} (c : Checked α) : Except Nat α :=
  if c.faults = 0 then .ok c.value else .error c.faults

def text? : Json τ → Option τ
  | .str s => some s
  | _ => none

/-- A text that may be missing or null. -/
def optionalText : Option (Json τ) → Checked (Option τ)
  | none => ⟨none, 0⟩
  | some .null => ⟨none, 0⟩
  | some (.str s) => ⟨some s, 0⟩
  | some _ => ⟨none, 1⟩

/-- A list of texts that may be missing: one fault for each item that is no text. -/
def textList : Option (Json τ) → Checked (List τ)
  | none => ⟨[], 0⟩
  | some (.arr items) =>
    ⟨items.filterMap text?, items.countP fun j => (text? j).isNone⟩
  | some _ => ⟨[], 1⟩

/-- An object of texts that may be missing: one fault for each member that is no text. -/
def textMap : Option (Json τ) → Checked (Assoc τ τ)
  | none => ⟨[], 0⟩
  | some (.obj members) =>
    ⟨members.filterMap fun m => (text? m.2).map (m.1, ·),
      members.countP fun m => (text? m.2).isNone⟩
  | some _ => ⟨[], 1⟩

end Checked

namespace Descriptor

section

variable [DecidableEq τ] [Textual τ]

def field? (raw : Json τ) (name : String) : Option (Json τ) :=
  raw.member? (Textual.ofString name)

/-- A field that has two spellings; the second counts only when the first is missing. -/
def fieldOr? (raw : Json τ) (name other : String) : Option (Json τ) :=
  (field? raw name).or (field? raw other)

def checkDefinition (raw : Json τ) : Checked (Definition τ) :=
  let repositories := Checked.textList (field? raw "repositories")
  let dependencies := Checked.textList (field? raw "dependencies")
  let imports := Checked.textList (field? raw "imports")
  let init := Checked.textList (field? raw "init")
  let initCell := Checked.textList (fieldOr? raw "initCell" "init_cell")
  let shutdown := Checked.textList (field? raw "shutdown")
  ⟨⟨repositories.value, dependencies.value, imports.value, init.value, initCell.value,
      shutdown.value⟩,
    repositories.faults + dependencies.faults + imports.faults + init.faults + initCell.faults
      + shutdown.faults⟩

/-- The descriptor in a JSON value, and its faults; a value that is no object is one fault. -/
def check (raw : Json τ) : Checked (Descriptor τ) :=
  match raw with
  | .obj _ =>
    let description := Checked.optionalText (field? raw "description")
    let link := Checked.optionalText (field? raw "link")
    let minKernelVersion :=
      Checked.optionalText (fieldOr? raw "minKernelVersion" "min_kernel_version")
    let properties := Checked.textMap (field? raw "properties")
    let definition := checkDefinition raw
    ⟨⟨description.value, link.value, minKernelVersion.value, properties.value, definition.value⟩,
      description.faults + link.faults + minKernelVersion.faults + properties.faults
        + definition.faults⟩
  | _ => ⟨{}, 1⟩

end

/-! ### Errors -/

/-- Why a text or a value is no descriptor. -/
inductive Cause where
  | malformed (problem : Json.Problem) (line column : Nat)
  | notAnObject (kind : String)
  | faulty (faults : Nat)
  deriving DecidableEq, Repr

/-- A rejected descriptor, with the name of the library if it is known. -/
structure Error (τ : Type := String) where
  name : Option τ
  cause : Cause
  deriving DecidableEq, Repr

def Error.message (e : Error) : String :=
  match e.cause with
  | .malformed problem line column =>
    s!"Invalid descriptor JSON: {problem.message} (line {line}, column {column})"
  | .notAnObject kind =>
    s!"Result of library descriptor parsing is of type {kind} which is unexpected"
  | .faulty n =>
    match e.name with
    | some name =>
      if name = "" then s!"Invalid descriptor schema: {n} error(s)"
      else s!"Invalid descriptor '{name}' schema: {n} error(s)"
    | none => s!"Invalid descriptor schema: {n} error(s)"

/-- The kind of value that stood where a descriptor should be, if there was a value at all. -/
def Error.actualKind (e : Error τ) : Option String :=
  match e.cause with
  | .malformed .. => none
  | .notAnObject kind => some kind
  | .faulty _ => some "object"

/-- Why a descriptor text cannot be read: it is rejected, or it holds a whole number with too many
digits. -/
inductive ParseError (τ : Type := String) where
  | rejected (error : Error τ)
  | oversizedInteger (digits : Nat)
  deriving DecidableEq, Repr

/-! ### Reading -/

variable [DecidableEq τ] [Textual τ]

def ofJson (name : Option τ) (raw : Json τ) : Except (Error τ) (Descriptor τ) :=
  (check raw).toExcept.mapError fun n => ⟨name, .faulty n⟩

/-- The descriptor in a JSON text. -/
def parse (name : Option τ) (text : τ) : Except (ParseError τ) (Descriptor τ) :=
  match Json.decode text with
  | .error (.oversizedInteger digits) => .error (.oversizedInteger digits)
  | .error (.malformed problem position) =>
    let cs := Textual.toPoints text
    .error (.rejected ⟨name,
      .malformed problem (Json.lineOf cs position) (Json.columnOf cs position)⟩)
  | .ok (.obj members) => (ofJson name (.obj members)).mapError .rejected
  | .ok raw => .error (.rejected ⟨name, .notAnObject raw.kind⟩)

/-- The parameters in the order of their declaration.  An empty default means that there is none. -/
def parameters (d : Descriptor τ) : List (Parameter τ) :=
  d.properties.map fun p =>
    if p.2 = Textual.ofString "" then .required p.1 else .optional p.1 p.2

end Descriptor

end LibraryCalls
