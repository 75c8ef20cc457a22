import LibraryCalls.Call.Parse
import LibraryCalls.CommandLine.Request
import LibraryCalls.Files.AtomicWrite
import LibraryCalls.Json.Display
import LibraryCalls.Resolution
import LibraryCalls.Settings.Load
import LibraryCalls.Source.Freshness
import LibraryCalls.Text.Terminal

/-!
# Running commands

A command reads files and the web, and ends with a status and an output, perhaps with a file
written.  Most faults have a message, which the command puts out under a status of its own; the
others end the program.

The files and the web are given to a command as values, and what it does to them is returned: the
tree of files after it, the requests it made and the events it reported.  A write may be told to
fail at one of its steps, so that what is left behind by a failure can be stated.

What a command puts out passes through `Text.withoutSequences`, whether it is a result or a message;
a file that is written instead holds the text as it is.  The status is zero for a result.  Faults
with a message have status one when the words or the settings are to blame and status two when the
call, the descriptor or its values are; the others leave the command unreported.

* `Fault.report?`: the status and the message of a fault;
* `injectedCode`: what `inject` shows, before it is shown;
* `Command.run`: a command from its start to its end;
* `deliver`: a result put out, or written to a file;
* `Outcome`, `Ending`: what a command leaves behind, and what is seen of it;
* `runParse`, `runInject`, `runLatestCommit`: the three commands.
-/

namespace LibraryCalls.CommandLine

/-! ### Faults -/

/-- Why a command does not do its work. -/
inductive Fault where
  | unknownBrackets
  | call (error : Call.SyntaxError)
  | descriptor (error : Descriptor.Error)
  | binding (error : Binding.Error)
  | unresolved (error : Placeholder.Unresolved)
  | settings (path : Path) (cause : Settings.Cause)
  /-- The settings are no text. -/
  | settingsText (reason : Text.Undecodable)
  | file (error : FileError)
  | oversizedInteger (digits : Nat)
  | unknownLibrary (name : String)
  | host (error : Host.Error)
  /-- The question for the newest commit failed in a way that is not reported. -/
  | question (failure : Freshness.Failure)
  deriving DecidableEq, Repr

namespace Fault

/-- The status and the message under which a command reports a fault, if it does. -/
def report? : Fault → Option (Nat × String)
  | .unknownBrackets => some (1, "--brackets must be one of: round, square.")
  | .call e => some (2, e.message)
  | .descriptor e => some (2, e.message)
  | .binding e => some (2, e.message)
  | .unresolved e => some (2, e.message)
  | .settings path cause => some (1, cause.message path)
  | .settingsText reason => some (1, reason.message)
  | .file _ | .oversizedInteger _ | .unknownLibrary _ | .host _ | .question _ => none

def description (fault : Fault) : String :=
  match fault, fault.report? with
  | _, some (_, message) => message
  | .file e, none => e.description
  | .oversizedInteger digits, none => Text.oversizedMessage digits
  | .unknownLibrary name, none => Resolution.unknownLibraryMessage name
  | .host e, none => e.message
  | .question e, none => e.kind
  | _, none => "unknown fault"

def ofDescriptor : Descriptor.ParseError → Fault
  | .rejected e => .descriptor e
  | .oversizedInteger digits => .oversizedInteger digits

def ofResolution : Resolution.Error → Fault
  | .call e => .call e
  | .unknownLibrary name => .unknownLibrary name
  | .binding e => .binding e
  | .host e => .host e
  | .unresolved e => .unresolved e

def ofSettings : Settings.Error → Fault
  | .rejected path cause => .settings path cause
  | .unreadable (.undecodable reason) => .settingsText reason
  | .unreadable e => .file e

end Fault

/-- How a command ends when it has something to say: a status and an output. -/
structure Ending where
  status : Nat
  output : String
  deriving DecidableEq, Repr

/-- What a command leaves behind: its output or a fault, the files, the requests it made and the
events it reported. -/
structure Outcome where
  result : Except Fault String
  files : FileTree
  requests : List String := []
  events : List Event := []

namespace Outcome

/-- How a command ends: with its output, with the report of a fault, or with a fault that has none.
Whatever is put out is plain text. -/
def ending (o : Outcome) : Except Fault Ending :=
  match o.result with
  | .ok output => .ok ⟨0, Text.withoutSequences output⟩
  | .error fault =>
    match fault.report? with
    | some (status, message) => .ok ⟨status, Text.withoutSequences s!"ERROR: {message}\n"⟩
    | none => .error fault

/-- The records of a run that a verbose program writes. -/
def records (o : Outcome) : List Log.Record :=
  (o.events.map Event.record).filter fun r => Log.Level.info.admits r.level

end Outcome

/-! ### Results -/

/-- Put a result where it is wanted: into a file, which is then named, or out in its shown form. -/
def deliver (broken : Option Stage) (files : FileTree) (out : Option Path) (text shown : String) :
    FileTree × Except Fault String :=
  match out with
  | none => (files, .ok shown)
  | some path =>
    match files.writeAtomic broken path text with
    | (files, .ok ()) => (files, .ok s!"INFO: wrote {path.toString}\n")
    | (files, .error e) => (files, .error (.file e))

/-! ### Parse -/

/-- The brackets of a name, in whatever case and with blanks around it. -/
def bracketsNamed? (name : String) : Option Brackets :=
  let word := String.ofList (Text.trim (name.toList.map Char.toLower))
  if word = "round" then some .round
  else if word = "square" then some .square
  else none

def callToJson (c : Call) : Json :=
  .obj [("name", .str c.name),
    ("arguments",
      .arr (c.arguments.map fun a => .obj [("name", .str a.name), ("value", .str a.value)]))]

def parsedCall (call brackets : String) : Except Fault String :=
  match bracketsNamed? brackets with
  | none => .error .unknownBrackets
  | some b =>
    match Call.parse b call with
    | .error e => .error (.call e)
    | .ok c => .ok (callToJson c).print

/-- Read a call and put out its JSON text. -/
def runParse (broken : Option Stage) (files : FileTree) (call brackets : String)
    (out : Option Path) : Outcome :=
  match parsedCall call brackets with
  | .error e => { result := .error e, files }
  | .ok text =>
    let (files, result) := deliver broken files out text (text ++ "\n")
    { result, files }

/-! ### Inject -/

/-- The fragments of code that a call injects, for a descriptor text that belongs to whatever
library the call names.  The text is asked for only when the call can be read. -/
def injectedCode (policy : Policy) (call : String) (descriptor : Except FileError String) :
    Traced Host.Step Fault (List String) := do
  let named ← Traced.ofExcept ((Call.parse .round call).mapError .call)
  let text ← Traced.ofExcept (descriptor.mapError .file)
  let descriptor ←
    Traced.ofExcept ((Descriptor.parse (some named.name) text).mapError Fault.ofDescriptor)
  let resolved ←
    (resolve [(named.name, descriptor)] none [] policy call).mapError Fault.ofResolution
  pure resolved.initCode

/-- Put out the code that a call injects, if there is any. -/
def runInject (broken : Option Stage) (files : FileTree) (call : String) (descriptor : Path)
    (policy : Policy) (out : Option Path) : Outcome :=
  let run := injectedCode policy call (files.readText descriptor)
  let events := run.steps.filterMap Host.Step.event?
  match run.outcome with
  | .error e => { result := .error e, files, events }
  | .ok [] => { result := .ok "INFO: no code to inject\n", files, events }
  | .ok code =>
    let text := String.join code
    let (files, result) := deliver broken files out text text
    { result, files, events }

/-! ### The newest commit -/

def commitLine : Option Commit → String
  | none => "INFO: no commit information available\n"
  | some c => s!"{c.sha.display} {c.timestamp.display}\n"

/-- The settings in a file, or the standard ones. -/
def settingsFrom (files : FileTree) : Option Path → Except Fault Settings
  | none => .ok Settings.standard
  | some path => (Settings.load files path).mapError Fault.ofSettings

/-- The reference to ask for; an empty one counts as none. -/
def referenceOr (default : String) : Option String → String
  | none => default
  | some ref => if ref = "" then default else ref

/-- Ask for the newest commit and put it out; redirects are followed. -/
def runLatestCommit (files : FileTree) (web : Web) (ref since : Option String)
    (settings : Option Path) : Outcome :=
  match settingsFrom files settings with
  | .error e => { result := .error e, files }
  | .ok s =>
    let run := latestCommit s true (referenceOr s.defaultRef ref) since web
    { result := (run.outcome.map commitLine).mapError .question, files
      requests := run.steps.filterMap Web.Step.request?
      events := run.steps.filterMap Web.Step.event? }

/-- Run a command.  `broken` is the step of a write, if any, that fails for an outside reason. -/
def Command.run (broken : Option Stage) (files : FileTree) (web : Web) : Command → Outcome
  | .parse call brackets out => runParse broken files call brackets out
  | .inject call descriptor policy out => runInject broken files call descriptor policy out
  | .latestCommit ref since settings => runLatestCommit files web ref since settings

end LibraryCalls.CommandLine
