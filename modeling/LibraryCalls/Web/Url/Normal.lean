import LibraryCalls.Text.Integer
import LibraryCalls.Text.Lower
import LibraryCalls.Web.Address
import LibraryCalls.Web.Domain.Name
import LibraryCalls.Web.Url.Basic

/-!
# The normal form of a URL

Which texts are URLs, and the form in which they are requested.

Scheme and host are in small letters, a port that the scheme implies is left out, dots among the
segments of the path are resolved, and whatever may not stand in its part is escaped, while escapes
that are there stay as they are.  A text is no URL if it is too long or holds control characters, if
its host is a malformed address or not a host name, if its port is no number, or if its path could
be taken for something else.

A URL with another part goes through the same once more, so that its text stays within the bounds
and its parts in their normal form.

* `Written.normal?`: the normal form of written parts;
* `Url.parse?`: the URL of a text, `none` for a text that is no URL;
* `Url.withQuery?`, `Url.withHost?`, `Url.withFragment?`: a URL with another part, in normal form
  again;
* `Url.requested?`: the URL that a client requests which has no place of its own;
* `Url.queryOf`: a query made of parameters.
-/

namespace LibraryCalls.Web

open Text

namespace Url

/-- The greatest number of characters of a URL or one of its parts. -/
def maxLength : Nat := 65536

/-- Characters that no URL may hold: the controls of ASCII. -/
def isControl (c : Char) : Bool :=
  c.toNat < 0x20 || c.toNat = 0x7F

/-- A text that is short enough and free of controls. -/
def isSound (cs : List Char) : Bool :=
  cs.length ≤ maxLength && !cs.any isControl

/-! ### Safe characters -/

def isAsciiPrintable (c : Char) : Bool :=
  0x20 ≤ c.toNat && c.toNat ≤ 0x7E

def isFragmentSafe (c : Char) : Bool :=
  isAsciiPrintable c && !(c = ' ' || c = '"' || c = '<' || c = '>' || c.toNat = 0x60)

def isQuerySafe (c : Char) : Bool :=
  isAsciiPrintable c && !(c = ' ' || c = '"' || c = '#' || c = '<' || c = '>')

def isPathSafe (c : Char) : Bool :=
  isQuerySafe c && !(c = '?' || c.toNat = 0x60 || c = '{' || c = '}')

def isUserSafe (c : Char) : Bool :=
  isPathSafe c && !(c = '/' || c = ';' || c = '=' || c = '@' || c = '[' || c = '\\' || c = ']'
    || c = '^' || c = '|')

def isHostSafe (c : Char) : Bool :=
  Percent.isUnreserved c || "!$&'()*+,;=\"\x7b\x7d%|\\".toList.contains c || c.toNat = 0x60

/-! ### Parts in normal form -/

def lowerAscii (cs : List Char) : List Char :=
  cs.map Char.toLower

def isBracketed (host : List Char) : Bool :=
  host.head? = some '[' && host.getLast? = some ']'

/-- A host in normal form: an address, a name whose unsafe characters are escaped, or a name in
ASCII letters for others. -/
def normalHost? (host : List Char) : Option (List Char) :=
  if host = [] then some []
  else if Address.looksDotted host then if Address.isDotted host then some host else none
  else if isBracketed host then
    let inside := (host.drop 1).dropLast
    if Address.isGrouped inside then some inside else none
  else if Domain.Label.isAscii host then
    some (Percent.encodeKeeping isHostSafe (lowerAscii host))
  else (Domain.toAscii (lower host)).toOption

def impliedPort (scheme : List Char) : Option Int :=
  if scheme = "http".toList ∨ scheme = "ws".toList then some 80
  else if scheme = "https".toList ∨ scheme = "wss".toList then some 443
  else if scheme = "ftp".toList then some 21
  else none

/-- The port that a text denotes, `none` inside if there is none or the scheme, as it is written,
implies it. -/
def normalPort? (scheme port : List Char) : Option (Option Int) :=
  if port = [] then some none
  else (readInteger? port).map fun n => if impliedPort scheme = some n then none else some n

/-- The segments of a path after another segment, last one first.  A segment `.` is dropped and a
segment `..` takes the one before it away, but never the first one if it is empty. -/
def resolveDot (output : List (List Char)) (segment : List Char) : List (List Char) :=
  if segment = ['.'] then output
  else if segment = ['.', '.'] then if output = [[]] then output else output.tail
  else segment :: output

def normalPath (path : List Char) : List Char :=
  joinWith '/' ((splitOn '/' path).foldl resolveDot []).reverse

/-- Whether a path can follow what comes before it: after a place it starts with a slash, and at the
head of a URL it can be taken neither for a place nor for a scheme. -/
def pathFits (hasScheme hasAuthority : Bool) (path : List Char) : Bool :=
  if hasAuthority then path = [] || path.head? = some '/'
  else hasScheme || !(path.head? = some ':' || ['/', '/'].isPrefixOf path)

end Url

namespace Written

open Url

/-- The normal form of written parts. -/
def normal? (w : Written) : Option Url := do
  let scheme := lowerAscii w.scheme
  let userinfo := Percent.encodeKeeping isUserSafe w.authority.userinfo
  let host ← normalHost? w.authority.host
  let port ← normalPort? w.scheme w.authority.port
  let hasAuthority := userinfo ≠ [] || host ≠ [] || port.isSome
  if pathFits (scheme ≠ []) hasAuthority w.path then
    let path := if scheme ≠ [] || hasAuthority then normalPath w.path else w.path
    some
      { scheme, userinfo, host, port
        path := Percent.encodeKeeping isPathSafe path
        query := w.query.map (Percent.encodeKeeping isQuerySafe)
        fragment := w.fragment.map (Percent.encodeKeeping isFragmentSafe) }
  else none

/-- The normal form of parts that may be too long or hold controls. -/
def url? (w : Written) : Option Url :=
  if w.texts.all isSound then w.normal? else none

end Written

namespace Url

/-- The URL of a text. -/
def parse? (text : List Char) : Option Url :=
  if isSound text then (Written.ofText text).normal? else none

def withQuery? (u : Url) (query : List Char) : Option Url :=
  { u.written with query := some query }.url?

def withFragment? (u : Url) (fragment : List Char) : Option Url :=
  { u.written with fragment := some fragment }.url?

def withHost? (u : Url) (host : List Char) : Option Url :=
  { u.written with authority := { u.written.authority with host := writtenHost host } }.url?

/-- Whether a URL says by itself what is asked of whom. -/
def isAbsolute (u : Url) : Bool :=
  u.scheme ≠ [] && u.host ≠ []

/-- The URL that a client without a place of its own requests: one that is not absolute is cut down
to its path, from the root on, and its query. -/
def requested? (u : Url) : Option Url :=
  if u.isAbsolute then some u
  else
    { scheme := []
      authority := ⟨[], [], []⟩
      path := '/' :: u.path.dropWhile (· = '/')
      query := u.query
      fragment := none : Written }.url?

def queryOf (params : List (String × String)) : List Char :=
  joinWith '&' (params.map fun p =>
    Percent.encodeForm p.1.toList ++ '=' :: Percent.encodeForm p.2.toList)

end Url

end LibraryCalls.Web
