import LibraryCalls.Decimal.Shortest
import LibraryCalls.Files.Tree
import LibraryCalls.Settings.Basic
import LibraryCalls.Yaml.Parse
import LibraryCalls.Yaml.Value

/-!
# Loading settings

Settings from a YAML file: a mapping with four texts that must be there and two values that may be,
and nothing else.

A file without settings is refused for one of five causes, and each has a message: it is not there,
it is no YAML, a number or a time in it is malformed, it is no mapping, or its entries do not fit.
A file that is there and cannot be read is a failure of another kind, which passes as it is.

Entries are taken by their names; an unknown name, or a key that is no text, makes all of them
unfit.  The time to wait may be given as any scalar that stands for a positive number of seconds, a
text among them.

* `Settings.ofEntries?`: the settings in a mapping, if it fits;
* `Settings.parse`: the settings in a text; `Settings.load`: those in a file;
* `Settings.Cause`, `Settings.Error`: why there are no settings.
-/

namespace LibraryCalls

namespace Settings

inductive Cause where
  | notFound
  | malformed
  | badScalar (fault : Yaml.ScalarFault)
  | notAMapping
  | badSchema
  deriving DecidableEq, Repr

def Cause.message (path : Path) : Cause → String
  | .notFound => s!"Settings file not found: {path.toString}"
  | .malformed => s!"Invalid YAML in settings file: {path.toString}"
  | .badScalar fault => fault.message
  | .notAMapping => s!"Settings file must contain a mapping: {path.toString}"
  | .badSchema => s!"Invalid settings schema: {path.toString}"

inductive Error where
  | rejected (path : Path) (cause : Cause)
  /-- The file is there but cannot be read. -/
  | unreadable (error : FileError)
  deriving DecidableEq, Repr

def known : List String :=
  ["github_api_prefix", "github_raw_prefix", "libraries_dir", "default_ref",
    "descriptor_extension", "http_timeout_seconds"]

/-- The entries of a mapping by their names, the last of a name counting; nothing if a key is no
text or not the name of a setting. -/
def named? : List (Yaml.Node × Yaml.Node) → Option (Assoc String Yaml.Node)
  | [] => some []
  | (key, value) :: rest =>
    match key.scalar? with
    | some (.text name) =>
      if name ∈ known then
        (named? rest).map fun others =>
          if others.contains name then others else (name, value) :: others
      else none
    | _ => none

def text? (node : Yaml.Node) : Option String :=
  match node.scalar? with
  | some (.text s) => some s
  | _ => none

/-- The number of seconds that a scalar stands for. -/
def seconds? : Yaml.Scalar → Option Binary64
  | .bool b => some (Binary64.ofNumeral (.ofInt (if b then 1 else 0)))
  | .int n =>
    match Binary64.ofNumeral (.ofInt n) with
    | .finite s m q => some (.finite s m q)
    | _ => none
  | .float x => some (Binary64.ofNumeral x)
  | .text s => (Numeral.ofText? s).map Binary64.ofNumeral
  | _ => none

def timeout? (node : Yaml.Node) : Option Binary64 :=
  (node.scalar?.bind seconds?).filter Binary64.isPositive

def ofEntries? (entries : List (Yaml.Node × Yaml.Node)) : Option Settings :=
  match named? entries with
  | none => none
  | some fields =>
    let required (name : String) : Option String := (fields.get? name).bind text?
    match required "github_api_prefix", required "github_raw_prefix", required "libraries_dir",
      required "default_ref" with
    | some apiUrl, some rawUrl, some librariesDir, some defaultRef =>
      let base : Settings := { apiUrl, rawUrl, librariesDir, defaultRef }
      let extension := match fields.get? "descriptor_extension" with
        | none => some base.extension
        | some node => text? node
      let timeout := match fields.get? "http_timeout_seconds" with
        | none => some base.timeout
        | some node => timeout? node
      match extension, timeout with
      | some extension, some timeout => some { base with extension, timeout }
      | _, _ => none
    | _, _, _, _ => none

def parse (text : String) : Except Cause Settings :=
  match Yaml.parse? text with
  | none => .error .malformed
  | some node =>
    match node.value? with
    | .error .malformed => .error .malformed
    | .error (.scalar fault) => .error (.badScalar fault)
    | .ok (.mapping entries) =>
      match ofEntries? entries with
      | some settings => .ok settings
      | none => .error .badSchema
    | .ok _ => .error .notAMapping

def load (files : FileTree) (path : Path) : Except Error Settings :=
  match files.readText path with
  | .error .notFound => .error (.rejected path .notFound)
  | .error e => .error (.unreadable e)
  | .ok text => (parse text).mapError (.rejected path)

end Settings

end LibraryCalls
