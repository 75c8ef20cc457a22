import LibraryCalls.Call.Parse
import LibraryCalls.Library.Binding
import LibraryCalls.Library.Descriptor
import LibraryCalls.Library.Injection
import LibraryCalls.Producer

/-!
# Resolving a call

From the text of a call to the code it injects: the call is read, its library looked up, its
arguments bound, the definitions collected, and the code of each definition built.  The first step
that fails ends the run; nothing is asked of the host before the arguments are bound.

The arguments are the descriptors that are known by name, the host if there is one, the policy for
placeholders without a value, and producers whose definitions count beside the library's own.  The
library's own definition always comes first and is there without a request.

The two policies differ in one stage only.  Under the lenient one a placeholder without a value
stays in the code as it is; under the strict one the first entry that holds one ends the resolution.
When a call has been resolved an event reports it, with the number of definitions and of pieces of
code.

* `Resolution.Error`: which step failed and why;
* `resolve`: one call; `resolveEach`, `resolveAll`: several, in order;
* `Resolved`: what comes of a call;
* `Resolution.bindCall`: the library of a call and the values of its parameters;
* `Resolution.injections`: the code of several definitions.
-/

namespace LibraryCalls

/-- A resolved call: the library, the values of its parameters, the definitions collected, and the
code of each definition that injects any. -/
structure Resolved where
  name : String
  arguments : Assoc String String
  definitions : List Definition
  initCode : List String
  deriving DecidableEq, Repr

namespace Resolution

inductive Error where
  | call (error : Call.SyntaxError)
  | unknownLibrary (name : String)
  | binding (error : Binding.Error)
  | host (error : Host.Error)
  | unresolved (error : Placeholder.Unresolved)
  deriving DecidableEq, Repr

def unknownLibraryMessage (name : String) : String :=
  s!"Unknown library: {name}"

def Error.message : Error → String
  | .call e => e.message
  | .unknownLibrary name => unknownLibraryMessage name
  | .binding e => e.message
  | .host e => e.message
  | .unresolved e => e.message

/-- A computation that may fail in any step of a resolution. -/
abbrev Run (α : Type) := Traced Host.Step Error α

/-- The library a call names, and the values of its parameters. -/
def bindCall (descriptors : Assoc String Descriptor) (text : String) :
    Except Error (String × Descriptor × Assoc String String) :=
  match Call.parse .round text with
  | .error e => .error (.call e)
  | .ok call =>
    match descriptors.get? call.name with
    | none => .error (.unknownLibrary call.name)
    | some descriptor =>
      match bindArguments call.name descriptor.parameters call.arguments with
      | .error e => .error (.binding e)
      | .ok values => .ok (call.name, descriptor, values)

/-- The code of each definition that injects any, in order. -/
def injections (policy : Policy) (values : Assoc String String) :
    List Definition → Except Placeholder.Unresolved (List String)
  | [] => .ok []
  | d :: rest =>
    match d.injection policy values with
    | .error e => .error e
    | .ok code => (injections policy values rest).map (code.toList ++ ·)

end Resolution

open Resolution in
/-- Resolve the text of a call.  The library's own definition comes first, then those of the extra
producers. -/
def resolve (descriptors : Assoc String Descriptor) (host : Option Host)
    (extra : List Producer) (policy : Policy) (text : String) : Resolution.Run Resolved := do
  let (name, descriptor, values) ← Traced.ofExcept (bindCall descriptors text)
  let definitions ←
    (collect host (.ready descriptor.definition :: extra)).mapError .host
  let code ←
    Traced.ofExcept ((injections policy values definitions).mapError .unresolved)
  Traced.step (.event (.libraryResolved name definitions.length code.length))
  pure ⟨name, values, definitions, code⟩

/-- Resolve several calls in order, each with the extra producers. -/
def resolveEach (descriptors : Assoc String Descriptor) (host : Option Host)
    (extra : List Producer) (policy : Policy) :
    List String → Resolution.Run (List Resolved)
  | [] => pure []
  | text :: rest => do
    let resolved ← resolve descriptors host extra policy text
    let others ← resolveEach descriptors host extra policy rest
    pure (resolved :: others)

/-- Resolve several calls in order, without extra producers. -/
def resolveAll (descriptors : Assoc String Descriptor) (host : Option Host) (policy : Policy)
    (texts : List String) : Resolution.Run (List Resolved) :=
  resolveEach descriptors host [] policy texts

end LibraryCalls
