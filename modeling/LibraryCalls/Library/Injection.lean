import LibraryCalls.Placeholder
import LibraryCalls.Library.Definition

/-!
# The code a definition injects

Each repository, dependency and import of a definition becomes one line of code, with the
placeholders in it replaced.  Repositories come first, then dependencies, then imports; a definition
that has none of them injects nothing.

A statement remembers its kind and its entry, so that substitution has a place to act on: the entry
is replaced and the kind stays.  Repositories and dependencies stand between double quotes in the
code, imports do not.  Values are put in as they are, without any escapes; what this does to the
lines and to the quotes of the code is the subject of `LibraryCalls.Proofs.Library.Lines`.

The strict policy ends at the first statement that holds a placeholder without a value.  A
definition can also be injected without any mapping, and then no placeholder has a value.

* `Statement`: a line of code and the entry in it;
* `Definition.statements`: the statements of a definition before substitution;
* `Definition.injection`, `Definition.injectionOf`: the code, given a mapping or perhaps none.
-/

namespace LibraryCalls

/-- A line of injected code and the entry it is made from. -/
inductive Statement where
  | repository (entry : String)
  | dependency (entry : String)
  | import_ (entry : String)
  deriving DecidableEq, Repr

namespace Statement

def entry : Statement → String
  | .repository e => e
  | .dependency e => e
  | .import_ e => e

/-- The same kind of statement made from another entry. -/
def withEntry (s : Statement) (entry : String) : Statement :=
  match s with
  | .repository _ => .repository entry
  | .dependency _ => .dependency entry
  | .import_ _ => .import_ entry

def text : Statement → String
  | .repository e => "@file:Repository(\"" ++ e ++ "\")"
  | .dependency e => "@file:DependsOn(\"" ++ e ++ "\")"
  | .import_ e => "import " ++ e

def line (s : Statement) : String :=
  s.text ++ "\n"

end Statement

namespace Definition

/-- The statements of a definition before substitution, in the order of their lines. -/
def statements (d : Definition) : List Statement :=
  d.repositories.map .repository ++ d.dependencies.map .dependency ++ d.imports.map .import_

/-- Statements with their placeholders replaced, up to the first that cannot be. -/
def fillStatements (policy : Policy) (mapping : Assoc String String) :
    List Statement → Except Placeholder.Unresolved (List Statement)
  | [] => .ok []
  | s :: rest =>
    match Placeholder.substitute policy mapping s.entry with
    | .error e => .error e
    | .ok entry => (fillStatements policy mapping rest).map (s.withEntry entry :: ·)

def code (statements : List Statement) : String :=
  String.join (statements.map Statement.line)

/-- The code a definition injects, or `none` when there is nothing to inject. -/
def injection (policy : Policy) (mapping : Assoc String String) (d : Definition) :
    Except Placeholder.Unresolved (Option String) :=
  (fillStatements policy mapping d.statements).map fun
    | [] => none
    | statements => some (code statements)

/-- The code a definition injects when values need not be given at all; then nothing has a value. -/
def injectionOf (policy : Policy) (given : Option (Assoc String String)) (d : Definition) :
    Except Placeholder.Unresolved (Option String) :=
  d.injection policy (given.getD [])

end Definition

end LibraryCalls
