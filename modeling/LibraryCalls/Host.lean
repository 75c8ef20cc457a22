import LibraryCalls.Assoc
import LibraryCalls.Json.Basic
import LibraryCalls.Library.Definition
import LibraryCalls.Log.Event
import LibraryCalls.Traced

/-!
# Producers and the host they run code on

A producer yields definitions.  Some have theirs ready; a resolving producer runs fragments of code
on a host and collects what they yield, which may be producers again.

The host is given by what its fragments yield and which preparing fragments fail.  What is asked of
it is recorded, so that a run can be compared with its record.

Running code is not part of this library, so a host is a value that says what would come of it: the
result of each fragment, if it has one, and the fragments that fail when they are run for
preparation.  A host answers every time in the same way.  This leaves out code whose results change
from one run to the next, and nothing below compares two runs of one fragment.

A resolving producer may yield itself, directly or through others, and then there is no end to what
it asks for.  A host therefore has a depth at which it gives up; `LibraryCalls.Proofs.Host.Depth`
shows that the default does not cut off anything that would come to an end.

* `Host.prepare`, `Host.execute`: the two requests a host answers;
* `Yield`: what a fragment may yield;
* `Host.Step`, `Host.Run`: the record of a run, requests and events in order;
* `Host.Error`: the three reasons to give up.
-/

namespace LibraryCalls

/-- Something that yields definitions. -/
inductive Producer where
  /-- One definition that is there already. -/
  | ready (definition : Definition)
  /-- Definitions found by running code: preparing fragments first, then the others. -/
  | resolving (init codes : List String)
  /-- A producer of another make, known only by what it yields. -/
  | custom (definitions : List Definition)
  deriving DecidableEq, Repr

/-- What a fragment yields. -/
inductive Yield where
  | definition (definition : Definition)
  | producer (producer : Producer)
  | other (value : Json)
  deriving Repr

/-- A request made to a host. -/
inductive HostCall where
  | prepare (codes : List String)
  | execute (code : String)
  deriving DecidableEq, Repr

/-- A host: what its fragments yield, which preparing fragments fail, and how many levels of
producers it lets each other start.  The default is enough for every host on which no producer
starts itself again. -/
structure Host where
  results : Assoc String Yield
  failingInit : List String := []
  depth : Nat := results.length + 1

namespace Host

inductive Error where
  | initFailed (code : String)
  | noResult (code : String)
  /-- Producers start each other without an end. -/
  | tooDeep
  deriving DecidableEq, Repr

def Error.message : Error → String
  | .initFailed code => s!"init failed: {code}"
  | .noResult code => s!"no result: {code}"
  | .tooDeep => "producers are nested too deeply"

/-- A step of a run: a request to the host, or an event reported. -/
inductive Step where
  | call (call : HostCall)
  | event (event : Event)
  deriving DecidableEq, Repr

def Step.call? : Step → Option HostCall
  | .call c => some c
  | .event _ => none

def Step.event? : Step → Option Event
  | .call _ => none
  | .event e => some e

/-- A computation that talks to a host. -/
abbrev Run (α : Type) := Traced Step Error α

/-- Run preparing fragments for what they do; the first that fails ends the run. -/
def prepare (host : Host) (codes : List String) : Run Unit :=
  ⟨[.call (.prepare codes)],
    match codes.find? (· ∈ host.failingInit) with
    | some code => .error (.initFailed code)
    | none => .ok ()⟩

/-- Run a fragment for what it yields. -/
def execute (host : Host) (code : String) : Run Yield :=
  ⟨[.call (.execute code)],
    match host.results.get? code with
    | some result => .ok result
    | none => .error (.noResult code)⟩

def report (e : Event) : Run Unit :=
  Traced.step (.event e)

end Host

end LibraryCalls
