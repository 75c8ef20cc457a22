import LibraryCalls.Text.Utf8
import LibraryCalls.Json.Encoding
import LibraryCalls.Json.Nesting
import LibraryCalls.Log.Event
import LibraryCalls.Text.Quoted
import LibraryCalls.Traced
import LibraryCalls.Web.Failure

/-!
# Requests to a web

The web is given by the answers it will make, one for each request in turn; the last one repeats.  A
request either fails underway or brings a reply, and a reply counts only with a status from 200 to
299.

A body may be asked for as a text, which every body has, or as JSON, which it may fail to be.  How
deeply the JSON of a body may be nested is not for the body to say but for the machine that reads
it; the room that there is for reading comes with the web, and nothing is assumed of it.

Every request that is made is a step of its run, also one whose answer is a failure, so that what
was asked can be told from the record.  A client that follows redirects makes at most `maxRequests`
requests in a row.  One that does not follow them still looks at where they lead, and fails if a
location stands for no URL; a redirect that it has not followed then counts as a reply with the
wrong status.

A reply is recorded by its URL.  A URL without a scheme cannot be recorded, so a request for it is
made and comes to nothing all the same.

* `Web.next`: the answer to the next request;
* `Web.get`: a request, with redirects followed or not;
* `Web.decodeBody`: the JSON of a body;
* `Web.getText`, `Web.getJson`: the body of the reply;
* `Reply`, `Answer`: what a server sends back, and what comes of a request;
* `Web.send`: a request and those that it is redirected to.
-/

namespace LibraryCalls.Web

/-- What a server sends back. -/
structure Reply where
  status : Nat := 200
  body : Text.Octets := []
  location : Option String := none
  deriving DecidableEq

/-- What comes of a request: a failure with a name, or a reply. -/
inductive Answer where
  | failure (kind : String)
  | reply (reply : Reply)
  deriving DecidableEq

end Web

/-- The answers that requests will get, in order.  The last one repeats; without any, no connection
can be made. -/
structure Web where
  answers : List Web.Answer
  /-- How many lists and objects inside one another there is room for when a body is read. -/
  room : Nat := 900

namespace Web

/-- The answer to the next request, and the web after it. -/
def next (web : Web) : Answer × Web :=
  match web.answers with
  | [] => (.failure "ConnectError", web)
  | [a] => (a, web)
  | a :: rest => (a, { web with answers := rest })

def unknownTypeMessage (url : String) : String :=
  "unknown url type: " ++ String.ofList (Text.quoted url.toList)

/-- A step of a run: a request made, or an event reported. -/
inductive Step where
  | request (url : String)
  | event (event : Event)
  deriving DecidableEq, Repr

def Step.request? : Step → Option String
  | .request url => some url
  | .event _ => none

def Step.event? : Step → Option Event
  | .request _ => none
  | .event e => some e

/-- A computation that makes requests. -/
abbrev Run (α : Type) := Traced Step Failure α

/-- The greatest number of requests that one request may turn into by redirects. -/
def maxRequests : Nat := 21

/-- The statuses that send a client elsewhere. -/
def isRedirect (status : Nat) : Bool :=
  status = 301 || status = 302 || status = 303 || status = 307 || status = 308

/-- Whether a text starts with the name of a type and a colon. -/
def namesType (text : List Char) : Bool :=
  let rest := text.dropWhile fun c => c ≠ '/' && c ≠ ':'
  rest.head? = some ':' && text.head? ≠ some ':'

/-- A URL is recorded with its reply by its type, which stands before the last number sign of its
text; a text that ends with that sign is recorded without it. -/
def checkType (url : Url) : Except Failure Unit :=
  let text := url.render
  let (before, after) := (Text.cutLast '#' text).getD (text, [])
  if namesType before then .ok ()
  else .error (.unknownType (String.ofList (if after = [] then before else text)))

def Reply.redirect? (reply : Reply) : Option String :=
  if isRedirect reply.status then reply.location else none

/-- A reply to a request can be read if its location is in ASCII. -/
def Reply.isReadable (reply : Reply) : Bool :=
  reply.location.all fun location => Domain.Label.isAscii location.toList

/-- What a reply to a request means: nothing more to do, or another URL to request. -/
def Reply.next? (reply : Reply) (url : Url) : Except Failure (Option Url) := do
  if !reply.isReadable then .error .unencodable
  checkType url
  match reply.redirect? with
  | none => .ok none
  | some location => ((url.redirect location.toList).map some).mapError .badRedirect

def Reply.check (reply : Reply) : Except Failure Unit :=
  if 200 ≤ reply.status ∧ reply.status ≤ 299 then .ok () else .error (.badStatus reply.status)

/-- Make a request and the requests it is redirected to, at most `fuel` in all.  A client that does
not follow redirects still finds out where they lead. -/
def send (follow : Bool) : Nat → Url → Web → Run (Reply × Web)
  | 0, _, _ => Traced.fail .tooManyRedirects
  | fuel + 1, url, web => do
    Traced.step (.request (String.ofList url.render))
    match web.next with
    | (.failure kind, _) => Traced.fail (.transport kind)
    | (.reply reply, web) =>
      let target ← Traced.ofExcept (reply.next? url)
      match target, follow with
      | some target, true => send follow fuel target web
      | _, _ => do
        Traced.ofExcept reply.check
        pure (reply, web)

/-- The URL of a text, with parameters in place of its query if there are any. -/
def target? (url : String) (params : List (String × String)) : Option Url := do
  let u ← Url.parse? url.toList
  let u ← u.requested?
  match params with
  | [] => some u
  | params => u.withQuery? (Url.queryOf params)

def get (follow : Bool) (url : String) (params : List (String × String)) (web : Web) :
    Run (Reply × Web) :=
  match target? url params with
  | none => Traced.fail .invalidUrl
  | some target =>
    if Domain.Label.isAscii target.host then send follow maxRequests target web
    else Traced.fail .unencodable

def getText (follow : Bool) (url : String) (web : Web) : Run (String × Web) := do
  let (reply, web) ← get follow url [] web
  pure (Text.decodeLossy reply.body, web)

/-- The JSON value of a body, read where there is room for so many lists and objects inside one
another. -/
def decodeBody (room : Nat) (body : Text.Octets) : Except Failure Json :=
  match Json.decodeOctets? body with
  | none => .error .undecodableBody
  | some text =>
    if Json.exhausts room text then .error .exhausted
    else
      match Json.readText text with
      | .error (.oversizedInteger _) => .error .oversizedInteger
      | .error (.malformed ..) => .error .malformedJson
      | .ok j => .ok j

def getJson (follow : Bool) (url : String) (params : List (String × String)) (web : Web) :
    Run (Json × Web) := do
  let (reply, rest) ← get follow url params web
  let j ← Traced.ofExcept (decodeBody web.room reply.body)
  pure (j, rest)

end Web

end LibraryCalls
