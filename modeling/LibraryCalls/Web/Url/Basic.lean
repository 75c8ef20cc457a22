import LibraryCalls.Text.Cut
import LibraryCalls.Text.Split
import LibraryCalls.Web.Percent

/-!
# URLs

A URL in parts, once as it is written and once in the normal form that a client requests.

Taking a text apart cannot fail: every text has a scheme, a place, a path, a query and a fragment,
each of which may be empty or missing, and what does not fit the grammar ends up in the path.
Whether the parts make up a URL is decided when they are brought into normal form, in
`LibraryCalls.Web.Url.Normal`.

An empty query or fragment is told from a missing one, as the mark before it stands in the text or
does not.  The host of a place is kept without its brackets in the normal form and with them in the
written one.

* `Written`: the parts as they are written; `Written.ofText` finds them in a text;
* `Url`: the parts in normal form; `Url.render` is their text and `Url.written` the way back;
* `Authority`: who asks, which host, and which port of it;
* `Written.render`: the text of written parts.
-/

namespace LibraryCalls.Web

open Text

/-- The place in a URL: who asks, which host, and which port of it. -/
structure Authority where
  userinfo : List Char
  host : List Char
  port : List Char
  deriving DecidableEq, Repr

/-- A URL as it is written.  The host stands in brackets if it holds colons. -/
structure Written where
  scheme : List Char
  authority : Authority
  path : List Char
  query : Option (List Char)
  fragment : Option (List Char)
  deriving DecidableEq, Repr

/-- A URL in normal form: scheme and host in small letters, no port that the scheme implies, a path
without `.` and `..` segments, and every character escaped that may not stand in its part.  The host
stands without brackets. -/
structure Url where
  scheme : List Char
  userinfo : List Char
  host : List Char
  port : Option Int
  path : List Char
  query : Option (List Char)
  fragment : Option (List Char)
  deriving DecidableEq, Repr

namespace Authority

/-- The host at the head of a place and the port after it.  A host with colons stands in brackets,
and the colon before the port may be left out after them. -/
def cutHost (place : List Char) : List Char × List Char :=
  let (host, rest) :=
    match place with
    | '[' :: inner =>
      match cutLast ']' inner with
      | some (inside, after) => ('[' :: inside ++ [']'], after)
      | none => place.span (· ≠ ':')
    | _ => place.span (· ≠ ':')
  match rest with
  | ':' :: port => (host, port)
  | port => (host, port)

/-- The parts of a text.  What stands before the last `@` is who asks. -/
def ofText (text : List Char) : Authority :=
  match cutLast '@' text with
  | some (userinfo, place) => ⟨userinfo, (cutHost place).1, (cutHost place).2⟩
  | none => ⟨[], (cutHost text).1, (cutHost text).2⟩

def render (a : Authority) : List Char :=
  (if a.userinfo = [] then [] else a.userinfo ++ ['@']) ++ a.host
    ++ (if a.port = [] then [] else ':' :: a.port)

end Authority

namespace Written

def isSchemeChar (c : Char) : Bool :=
  c.isAlphanum || c = '+' || c = '.' || c = '-'

def isScheme : List Char → Bool
  | [] => false
  | c :: rest => c.isAlpha && rest.all isSchemeChar

/-- The scheme at the head of a text and the text after its colon.  It may be left out, and the
colon too. -/
def cutScheme (cs : List Char) : List Char × List Char :=
  match cutFirst ':' cs with
  | some (scheme, rest) => if scheme = [] || isScheme scheme then (scheme, rest) else ([], cs)
  | none => ([], cs)

/-- The place after two slashes at the head of a text, and the text from the path on. -/
def cutAuthority : List Char → List Char × List Char
  | '/' :: '/' :: rest => rest.span (· ≠ '/')
  | cs => ([], cs)

/-- The text before a character and what follows it, if it is there. -/
def cutAfter (c : Char) (cs : List Char) : List Char × Option (List Char) :=
  match cutFirst c cs with
  | some (before, after) => (before, some after)
  | none => (cs, none)

def ofText (text : List Char) : Written :=
  let (text, fragment) := cutAfter '#' text
  let (text, query) := cutAfter '?' text
  let (scheme, text) := cutScheme text
  let (authority, path) := cutAuthority text
  ⟨scheme, Authority.ofText authority, path, query, fragment⟩

def render (w : Written) : List Char :=
  let authority := w.authority.render
  (if w.scheme = [] then [] else w.scheme ++ [':'])
    ++ (if authority = [] then [] else '/' :: '/' :: authority)
    ++ w.path
    ++ (match w.query with
      | none => []
      | some q => '?' :: q)
    ++ (match w.fragment with
      | none => []
      | some f => '#' :: f)

def texts (w : Written) : List (List Char) :=
  [w.scheme, w.authority.render, w.path] ++ w.query.toList ++ w.fragment.toList

end Written

namespace Url

def writtenHost (host : List Char) : List Char :=
  if host.contains ':' then '[' :: host ++ [']'] else host

def written (u : Url) : Written where
  scheme := u.scheme
  authority :=
    { userinfo := u.userinfo
      host := writtenHost u.host
      port := match u.port with
        | none => []
        | some n => (toString n).toList }
  path := u.path
  query := u.query
  fragment := u.fragment

def render (u : Url) : List Char :=
  u.written.render

end Url

end LibraryCalls.Web
