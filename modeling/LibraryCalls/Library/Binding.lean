import LibraryCalls.Assoc
import LibraryCalls.Call.Basic
import LibraryCalls.Library.Parameter
import LibraryCalls.Text.CodePoint

/-!
# Binding arguments to parameters

Named arguments bind first.  Positional arguments then fill the parameters that are still free, in
the order of their declaration, and what is left takes its default.

Faults are found in this order too.  A name that is not declared, or one that has a value already,
ends the first loop; more positional arguments than free parameters end the second; and a parameter
without a value and without a default ends the third, the first such parameter in the order of the
declaration being the one that is named.

The values of a binding are kept in a map by the names of the parameters.  The values may be texts
of any type, and so may the names, because a descriptor that was read into other texts than those of
a call is bound by the same rules.

* `Binding.Cause`: the four ways in which a call can fail to fit;
* `bindNamed`: the values given by name;
* `bindArguments`: a value for every parameter, in the order of their declaration;
* `positional`, `free`, `fillPositional`: the values without names, and the parameters for them;
* `complete`: the defaults.
-/

namespace LibraryCalls

variable {τ : Type}

namespace Binding

/-- Why arguments do not fit the parameters of a library. -/
inductive Cause (τ : Type := String) where
  | unknownParameter (name : τ)
  | duplicateBinding (name : τ)
  | tooManyPositional (free given : Nat)
  | missingRequired (name : τ)
  deriving DecidableEq, Repr

/-- A failure to bind, with the library that was called. -/
structure Error (τ : Type := String) where
  library : τ
  cause : Cause τ
  deriving DecidableEq, Repr

def Error.message (e : Error) : String :=
  match e.cause with
  | .unknownParameter n => s!"Library '{e.library}' has no parameter '{n}'"
  | .duplicateBinding n => s!"Parameter '{n}' of library '{e.library}' is bound twice"
  | .tooManyPositional free given =>
    s!"Library '{e.library}' takes at most {free} positional argument(s), got {given}"
  | .missingRequired n => s!"Missing required parameter '{n}' of library '{e.library}'"

def Cause.reason : Cause τ → String
  | .unknownParameter _ => "unknown_parameter"
  | .duplicateBinding _ => "duplicate_binding"
  | .tooManyPositional .. => "too_many_positional"
  | .missingRequired _ => "missing_required"

variable [DecidableEq τ] [Textual τ]

/-- The values given by name, added to those in `bound`; the first argument that names no parameter
or a parameter already bound is an error. -/
def bindNamed (parameters : List (Parameter τ)) :
    Assoc τ τ → List (Argument τ) → Except (Cause τ) (Assoc τ τ)
  | bound, [] => .ok bound
  | bound, a :: rest =>
    if a.name = Textual.ofString "" then bindNamed parameters bound rest
    else if a.name ∉ parameters.map Parameter.name then .error (.unknownParameter a.name)
    else if bound.contains a.name then .error (.duplicateBinding a.name)
    else bindNamed parameters (bound.set a.name a.value) rest

def positional (arguments : List (Argument τ)) : List τ :=
  (arguments.filter (·.name = Textual.ofString "")).map (·.value)

def free (parameters : List (Parameter τ)) (bound : Assoc τ τ) : List (Parameter τ) :=
  parameters.filter fun p => !bound.contains p.name

/-- Give values to parameters, one each, in order. -/
def fillPositional (bound : Assoc τ τ) (free : List (Parameter τ)) (values : List τ) :
    Assoc τ τ :=
  (free.zip values).foldl (fun m p => m.set p.1.name p.2) bound

/-- Every parameter with its value or, failing that, its default, added to `result` in order. -/
def complete (bound : Assoc τ τ) :
    Assoc τ τ → List (Parameter τ) → Except (Cause τ) (Assoc τ τ)
  | result, [] => .ok result
  | result, p :: rest =>
    match bound.get? p.name, p.default? with
    | some value, _ => complete bound (result.set p.name value) rest
    | none, some value => complete bound (result.set p.name value) rest
    | none, none => .error (.missingRequired p.name)

/-- A value for every parameter, in the order of their declaration. -/
def values (parameters : List (Parameter τ)) (arguments : List (Argument τ)) :
    Except (Cause τ) (Assoc τ τ) :=
  match bindNamed parameters [] arguments with
  | .error e => .error e
  | .ok named =>
    let open_ := free parameters named
    let given := positional arguments
    if open_.length < given.length then .error (.tooManyPositional open_.length given.length)
    else complete (fillPositional named open_ given) [] parameters

end Binding

/-- Bind the arguments of a call to the parameters of the library it names. -/
def bindArguments [DecidableEq τ] [Textual τ] (library : τ) (parameters : List (Parameter τ))
    (arguments : List (Argument τ)) : Except (Binding.Error τ) (Assoc τ τ) :=
  (Binding.values parameters arguments).mapError (⟨library, ·⟩)

end LibraryCalls
