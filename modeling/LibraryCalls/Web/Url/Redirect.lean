import LibraryCalls.Web.Url.Reference

/-!
# Redirects

Where a server sends a client on to.

A location may be a URL of its own or only part of one.  It takes over from the request what it
leaves out: the host if it has a scheme without one, everything up to the path if it is relative,
and the fragment if it has none.  The order of these steps matters, since each of them works on what
the ones before it have made.

At the end the names of the two hosts are compared, which requires that both of them can be written
out in their own letters; a host that stands for no name makes the redirect fail even if the request
could be made.

* `Url.hostName?`: the host of a URL as it is shown;
* `Url.redirect`: the URL that a location stands for in the reply to a request;
* `RedirectFault`: why a reply does not say where to go on.
-/

namespace LibraryCalls.Web

/-- Why a reply does not say where to go on: the location is no URL, the URL that it stands for is
none, or a host in ASCII letters stands for no other name. -/
inductive RedirectFault where
  | location
  | target
  | host (fault : Domain.Fault)
  deriving DecidableEq, Repr

namespace Url

def hostName? (u : Url) : Except RedirectFault (List Char) :=
  if Domain.Label.asciiMark.isPrefixOf u.host then (Domain.ofAscii u.host).mapError .host
  else .ok u.host

def orTarget : Option Url → Except RedirectFault Url
  | some u => .ok u
  | none => .error .target

/-- A location with a scheme and without a host is on the host of the request. -/
def withHostOf (request location : Url) : Except RedirectFault Url :=
  if location.scheme = [] then .ok location
  else do
    let host ← location.hostName?
    if host ≠ [] then .ok location
    else do
      let host ← request.hostName?
      orTarget (location.withHost? host)

/-- A location that is not absolute is seen from the request. -/
def absoluteFrom (request location : Url) : Except RedirectFault Url :=
  if location.isAbsolute then .ok location else orTarget (request.join? location)

def fragmentText (u : Url) : List Char :=
  Percent.decode (u.fragment.getD [])

/-- A location without a fragment takes the one of the request over. -/
def withFragmentOf (request location : Url) : Except RedirectFault Url :=
  if request.fragmentText ≠ [] ∧ location.fragmentText = [] then
    orTarget (location.withFragment? request.fragmentText)
  else .ok location

/-- The hosts of a request and of the URL it is sent on to are compared by their names. -/
def checkHosts (request target : Url) : Except RedirectFault Unit := do
  if request.scheme = target.scheme then
    let _ ← target.hostName?
    let _ ← request.hostName?
  else
    let _ ← request.hostName?
    let _ ← target.hostName?

/-- The URL that a location stands for in the reply to a request. -/
def redirect (request : Url) (location : List Char) : Except RedirectFault Url :=
  match parse? location with
  | none => .error .location
  | some target => do
    let target ← request.withHostOf target
    let target ← request.absoluteFrom target
    let target ← request.withFragmentOf target
    request.checkHosts target
    .ok target

end Url

end LibraryCalls.Web
