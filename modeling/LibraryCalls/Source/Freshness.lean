import LibraryCalls.Settings.Basic
import LibraryCalls.Web.Client

/-!
# The newest commit

Asking the repository for the newest commit that touched the descriptors, perhaps only for one after
a given time; when there is none after it, the question is asked once more without the time.

A question can fail with the client that asks it, and with an answer of an unexpected shape.
Failures of the six classes that are known to come of this are caught: they are reported, and the
answer is that nothing is known.  A failure of any other class is passed on.  The second question is
asked while the first one is underway, so that its failures meet both handlers.

The question is a request with parameters for the directory, the reference and perhaps a time.  An
answer that says nothing is one of the empty values: an empty list, an empty object, null, false,
zero or the empty text.  Any other answer has to be a list whose first item describes a commit; the
name and the time of the commit are taken as they stand there.

* `Commit.ofJson`: the newest commit in the answer to the question;
* `Freshness.Failure`, `Freshness.caught`: the failures, and the classes of those that are reported;
* `Freshness.question`: the question asked once; `latestCommit`: once or twice.
-/

namespace LibraryCalls

/-- A commit as the repository describes it: its name and its time, whatever values stand there. -/
structure Commit where
  sha : Json
  timestamp : Json
  deriving Repr

/-- Why a value does not describe a commit. -/
inductive CommitFault where
  | missingKey
  | wrongType
  deriving DecidableEq, Repr

def CommitFault.kind : CommitFault → String
  | .missingKey => "KeyError"
  | .wrongType => "TypeError"

def CommitFault.class : CommitFault → FailureClass
  | .missingKey => .key
  | .wrongType => .type

namespace Commit

def member (j : Json) (name : String) : Except CommitFault Json :=
  match j with
  | .obj _ =>
    match j.member? name with
    | some value => .ok value
    | none => .error .missingKey
  | _ => .error .wrongType

/-- The first item of a list that is not empty.  A text has a first item too, which is a text. -/
def first : Json → Except CommitFault Json
  | .arr (item :: _) => .ok item
  | .str s => .ok (.str (String.ofList (s.toList.take 1)))
  | .obj _ => .error .missingKey
  | _ => .error .wrongType

def ofJson (j : Json) : Except CommitFault Commit :=
  match first j with
  | .error e => .error e
  | .ok item =>
    match member item "sha" with
    | .error e => .error e
    | .ok sha =>
      match member item "commit" with
      | .error e => .error e
      | .ok commit =>
        match member commit "committer" with
        | .error e => .error e
        | .ok committer => (member committer "date").map fun date => ⟨sha, date⟩

end Commit

namespace Freshness

def url (settings : Settings) : String :=
  settings.apiUrl ++ "/commits"

def params (settings : Settings) (ref : String) (since : Option String) :
    List (String × String) :=
  [("path", settings.librariesDir), ("sha", ref)]
    ++ (match since with
      | none => []
      | some time => [("since", time)])

def ask (settings : Settings) (follow : Bool) (ref : String) (since : Option String) (web : Web) :
    Web.Run (Json × Web) := do
  Traced.step (.event (.commitCheck (url settings) (params settings ref since)))
  Web.getJson follow (url settings) (params settings ref since) web

/-- Why a question brought nothing. -/
inductive Failure where
  /-- The client that asks it failed. -/
  | client (failure : Web.Failure)
  /-- The answer has another shape. -/
  | shape (fault : CommitFault)
  deriving DecidableEq, Repr

def Failure.kind : Failure → String
  | .client e => e.kind
  | .shape e => e.kind

def Failure.class : Failure → FailureClass
  | .client e => e.class
  | .shape e => e.class

/-- The classes of failures that are reported and go no further. -/
def caught : List FailureClass :=
  [.http, .url, .value, .key, .type, .index]

/-- A run of the question, which may find a commit. -/
abbrev Run := Traced Web.Step Failure (Option Commit)

/-- What is done about a failure, if it is one of those that are caught: it is reported, and nothing
is known. -/
def report? (settings : Settings) (e : Failure) : Option Run :=
  if e.class ∈ caught then
    some ⟨[.event (.commitCheckFailed (url settings) e.kind)], .ok none⟩
  else none

/-- The question asked once, and what is done next if the answer says nothing. -/
def question (settings : Settings) (follow : Bool) (ref : String) (since : Option String)
    (next : Web → Run) (web : Web) : Run :=
  Traced.rescue
    (do
      let (j, rest) ← (ask settings follow ref since web).mapError .client
      if j.isVoid then next rest
      else
        let commit ← Traced.ofExcept ((Commit.ofJson j).mapError .shape)
        pure (some commit))
    (report? settings)

def reportEmpty (settings : Settings) (_ : Web) : Run :=
  ⟨[.event (.commitCheckEmpty (url settings) settings.librariesDir)], .ok none⟩

/-- The question without a time. -/
def unfiltered (settings : Settings) (follow : Bool) (ref : String) (web : Web) : Run :=
  question settings follow ref none (reportEmpty settings) web

end Freshness

open Freshness in
/-- The newest commit, with every step taken to find it. -/
def latestCommit (settings : Settings) (follow : Bool) (ref : String) (since : Option String)
    (web : Web) : Freshness.Run :=
  match since with
  | none => unfiltered settings follow ref web
  | some time =>
    question settings follow ref (some time) (unfiltered settings follow ref) web

end LibraryCalls
