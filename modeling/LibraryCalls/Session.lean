import LibraryCalls.Resolution

/-!
# Properties of a session

What a session is started with: its receiver, what is added to its class path, the code to run when
it loads, where its output goes, and the limits of what it shows.

The class path holds each entry once, in the order in which entries were first added, and is shown
in ascending order.  Code is queued behind the code that is there.  The limit on the length of
results is a positive number by construction; the setter takes any integer and refuses those that
are not positive, which leaves the session as it was.

Queueing a library takes its injected code and then, definition by definition, the code to run on
loading, with the values of the library put in.  Here placeholders without a value always stay,
whatever policy the library was resolved under.

* `Session.setMaxResult?`: the one setter that can refuse its argument;
* `Session.queue`: the code of resolved libraries, queued to run when the session loads;
* `Session.addClassPath`, `Session.addCode`: the setters that refuse nothing;
* `Session.loadCode`: the code of one library.
-/

namespace LibraryCalls

/-- What a session starts with: a receiver, a class path, code to run, and limits on its output. -/
structure Session where
  receiver : Json := .null
  /-- The entries added to the class path, each once. -/
  classPath : List String := []
  codeOnLoad : List String := []
  outputDir : Option String := none
  maxResult : Nat := 1000
  shortenTypes : Bool := true
  maxResult_pos : 0 < maxResult := by decide

namespace Session

def addClassPath (s : Session) (entries : List String) : Session :=
  { s with
    classPath := entries.foldl
      (fun known entry => if entry ∈ known then known else known ++ [entry]) s.classPath }

/-- The entries added to the class path, in ascending order. -/
def sortedClassPath (s : Session) : List String :=
  s.classPath.mergeSort fun a b => a ≤ b

def addCode (s : Session) (codes : List String) : Session :=
  { s with codeOnLoad := s.codeOnLoad ++ codes }

/-- Limit the length of results; the limit must be positive. -/
def setMaxResult? (s : Session) (limit : Int) : Option Session :=
  if h : 0 < limit then
    some { s with maxResult := limit.toNat, maxResult_pos := by omega }
  else none

def maxResultMessage (limit : Int) : String :=
  s!"max_result must be positive, got {limit}"

/-- The code that a resolved library runs when the session loads: what it injects, then the code of
each of its definitions, in which placeholders without a value stay as they are. -/
def loadCode (library : Resolved) : List String :=
  library.initCode
    ++ library.definitions.flatMap fun d => d.init.map (Placeholder.fill library.arguments)

/-- Queue the code of resolved libraries, one after another. -/
def queue (s : Session) (libraries : List Resolved) : Session :=
  libraries.foldl (fun s library => s.addCode (loadCode library)) s

end Session

end LibraryCalls
