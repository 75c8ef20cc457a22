import LibraryCalls.Log.Basic

/-!
# Events

What the library reports while it works: each event with its level, its logger and its fields.

An event is a value and not yet a text.  Runs collect events among their steps, beside the requests
that they make, and theorems speak of the events; they become records only when a program shows
them.

The events of a resolution have a logger of their own, all others share one.  What a field holds is
decided here and nowhere else: the URL of a question, its parameters as an object, a failure by the
name of its kind, and counts as whole numbers.  A failed question is the only warning.

* `Event`: the events with what they are about;
* `Event.level`, `Event.logger`, `Event.name`, `Event.fields`: what a record says of an event;
* `Event.record`: the record.
-/

namespace LibraryCalls

/-- Something worth reporting. -/
inductive Event where
  /-- A descriptor is about to be read, from a file if there is a path. -/
  | descriptorParse (name : String) (path : Option String)
  /-- The newest commit is about to be asked for. -/
  | commitCheck (url : String) (params : List (String × String))
  /-- There is no commit. -/
  | commitCheckEmpty (url path : String)
  /-- The newest commit could not be found out. -/
  | commitCheckFailed (url kind : String)
  /-- Another source of descriptors has become the one used by default. -/
  | fallbackSwitched (mode : String)
  /-- The preparing fragments of a producer have run. -/
  | initCodeExecuted (fragments : Nat)
  /-- The fragments of a producer have run. -/
  | definitionCodeExecuted (fragments definitions : Nat)
  /-- A call has been resolved. -/
  | libraryResolved (name : String) (definitions codeFragments : Nat)
  deriving DecidableEq, Repr

namespace Event

def level : Event → Log.Level
  | .commitCheckFailed .. => .warning
  | .fallbackSwitched _ | .initCodeExecuted _ | .definitionCodeExecuted .. => .debug
  | _ => .info

def logger : Event → String
  | .libraryResolved .. => "libresolve.pipeline"
  | _ => "libresolve.libraries"

def name : Event → String
  | .descriptorParse .. => "descriptor_parse"
  | .commitCheck .. => "commit_check"
  | .commitCheckEmpty .. => "commit_check_empty"
  | .commitCheckFailed .. => "commit_check_failed"
  | .fallbackSwitched _ => "fallback_switched"
  | .initCodeExecuted _ => "init_code_executed"
  | .definitionCodeExecuted .. => "definition_code_executed"
  | .libraryResolved .. => "library_resolved"

def fields : Event → List (String × Json)
  | .descriptorParse name none => [("name", .str name)]
  | .descriptorParse name (some path) => [("name", .str name), ("path", .str path)]
  | .commitCheck url params =>
    [("url", .str url), ("params", .obj (params.map fun p => (p.1, .str p.2)))]
  | .commitCheckEmpty url path => [("url", .str url), ("path", .str path)]
  | .commitCheckFailed url kind => [("url", .str url), ("error_type", .str kind)]
  | .fallbackSwitched mode => [("mode", .str mode)]
  | .initCodeExecuted n => [("fragments", .int n)]
  | .definitionCodeExecuted n d => [("fragments", .int n), ("definitions", .int d)]
  | .libraryResolved name d c =>
    [("name", .str name), ("definitions", .int d), ("code_fragments", .int c)]

def record (e : Event) : Log.Record :=
  ⟨e.level, e.logger, Log.line e.name e.fields⟩

end Event

end LibraryCalls
