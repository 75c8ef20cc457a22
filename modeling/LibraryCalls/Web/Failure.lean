import LibraryCalls.Web.Url.Redirect

/-!
# Failures of requests

A request can fail before it is made, underway, and by its reply.  Each failure has a name, under
which it is reported, and belongs to a class: a handler takes the failures of some classes and lets
those of all others pass, whatever their names are.

The classes are coarser than the names.  Text that cannot be encoded or decoded, JSON that is
malformed, a whole number that is too long, a host name that cannot be written and a URL of an
unknown type are all failures of a value, while a body that is nested too deeply is none: it is a
failure of the machine, in a class of its own.

Names and classes are independent of each other: two failures of one class may have different names,
and it is the name that appears in a report, whereas the class alone decides whether there is a
report.  Failures underway are named by whoever brings the answer, and are all in one class.

* `FailureClass`: the classes;
* `Failure`, `Failure.kind`, `Failure.class`: the failures of a request, their names and classes.
-/

namespace LibraryCalls

/-- The classes into which failures fall. -/
inductive FailureClass where
  /-- The connection, the exchange or the status of the reply. -/
  | http
  /-- A text that is no URL. -/
  | url
  /-- A value that cannot be used. -/
  | value
  /-- A member that is not there. -/
  | key
  /-- A value of the wrong type. -/
  | type
  /-- An item that is not there. -/
  | index
  /-- No room for going deeper. -/
  | recursion
  deriving DecidableEq, Repr

namespace Web

/-- Why a request brought nothing. -/
inductive Failure where
  | invalidUrl
  | unencodable
  | transport (kind : String)
  | unknownType (url : String)
  | badRedirect (fault : RedirectFault)
  | tooManyRedirects
  | badStatus (status : Nat)
  | undecodableBody
  | malformedJson
  | oversizedInteger
  /-- The body has more lists and objects inside one another than there is room for. -/
  | exhausted
  deriving DecidableEq, Repr

def Domain.Fault.kind : Domain.Fault → String
  | .form => "IDNAError"
  | .letter => "InvalidCodepoint"
  | .neighbour => "InvalidCodepointContext"
  | .direction => "IDNABidiError"

def RedirectFault.kind : RedirectFault → String
  | .location => "RemoteProtocolError"
  | .target => "InvalidURL"
  | .host fault => fault.kind

def RedirectFault.class : RedirectFault → FailureClass
  | .location => .http
  | .target => .url
  | .host _ => .value

def Failure.kind : Failure → String
  | .invalidUrl => "InvalidURL"
  | .unencodable => "UnicodeEncodeError"
  | .transport kind => kind
  | .unknownType _ => "ValueError"
  | .badRedirect fault => fault.kind
  | .tooManyRedirects => "TooManyRedirects"
  | .badStatus _ => "HTTPStatusError"
  | .undecodableBody => "UnicodeDecodeError"
  | .malformedJson => "JSONDecodeError"
  | .oversizedInteger => "ValueError"
  | .exhausted => "RecursionError"

def Failure.class : Failure → FailureClass
  | .invalidUrl => .url
  | .unencodable => .value
  | .transport _ => .http
  | .unknownType _ => .value
  | .badRedirect fault => fault.class
  | .tooManyRedirects => .http
  | .badStatus _ => .http
  | .undecodableBody => .value
  | .malformedJson => .value
  | .oversizedInteger => .value
  | .exhausted => .recursion

end Web

end LibraryCalls
