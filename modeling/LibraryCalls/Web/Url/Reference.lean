import LibraryCalls.Web.Url.Normal

/-!
# References

A reference is the text of a URL that may leave parts out; seen from the text of another URL, the
missing parts are taken over.

This is a reading of references that is older than the one in `LibraryCalls.Web.Url.Basic` and
differs from it: parts that are empty count as left out, the last segment of a path may have
parameters behind a semicolon, and only some schemes have relative references at all.  A location
that is relative is read in both ways, one after the other, and nothing else is.

A relative path follows the directory of the other one, its dots are resolved without regard for the
root, and empty segments in the middle are dropped.

* `Reference.ofText`, `Reference.render`: from a text to its parts and back;
* `Reference.resolve`: the text of a URL that a reference stands for;
* `Reference.inherit`, `Reference.mergePath`: the parts that are taken over, and the path;
* `Url.join?`: a reference as seen from a URL.
-/

namespace LibraryCalls.Web

open Text

/-- The parts of a reference.  A part that is empty counts as left out.  Parameters are what follows
the first semicolon of the last segment. -/
structure Reference where
  scheme : List Char
  authority : List Char
  path : List Char
  params : List Char
  query : List Char
  fragment : List Char
  deriving DecidableEq, Repr

namespace Reference

/-- The schemes whose URLs can be given relative to each other. -/
def relativeSchemes : List (List Char) :=
  ["", "ftp", "http", "gopher", "nntp", "imap", "wais", "file", "https", "shttp", "mms", "prospero",
    "rtsp", "rtspu", "sftp", "svn", "svn+ssh", "ws", "wss"].map String.toList

def paramSchemes : List (List Char) :=
  ["", "ftp", "hdl", "prospero", "http", "https", "shttp", "rtsp", "rtspu", "sip", "sips", "mms",
    "sftp", "tel"].map String.toList

/-- The scheme at the head of a text, or else the given one, and the text after its colon. -/
def cutScheme (fallback cs : List Char) : List Char × List Char :=
  match cutFirst ':' cs with
  | some (scheme, rest) =>
    if Written.isScheme scheme then (Url.lowerAscii scheme, rest) else (fallback, cs)
  | none => (fallback, cs)

/-- The place after two slashes at the head of a text, and the text after it. -/
def cutAuthority : List Char → List Char × List Char
  | '/' :: '/' :: rest => rest.span fun c => c ≠ '/' && c ≠ '?' && c ≠ '#'
  | cs => ([], cs)

/-- A path without its parameters, and the parameters. -/
def cutParams (path : List Char) : List Char × List Char :=
  let (directory, last) := match cutLast '/' path with
    | some (directory, last) => (directory ++ ['/'], last)
    | none => ([], path)
  match cutFirst ';' last with
  | some (last, params) => (directory ++ last, params)
  | none => (path, [])

/-- The parts of a text; `scheme` is the scheme of a text that has none. -/
def ofText (scheme text : List Char) : Reference :=
  let (scheme, text) := cutScheme scheme text
  let (authority, text) := cutAuthority text
  let (text, fragment) := Written.cutAfter '#' text
  let (path, query) := Written.cutAfter '?' text
  let (path, params) := if paramSchemes.contains scheme then cutParams path else (path, [])
  ⟨scheme, authority, path, params, query.getD [], fragment.getD []⟩

/-- A part behind its mark, nothing if it is left out. -/
def marked (mark : Char) (part : List Char) : List Char :=
  if part = [] then [] else mark :: part

/-- The text of the parts.  With a scheme there is a place too, even if it is empty, and the path
starts at its root. -/
def render (r : Reference) : List Char :=
  let path := r.path ++ marked ';' r.params
  let isRooted := path = [] || path.head? = some '/'
  (if r.scheme = [] then [] else r.scheme ++ [':'])
    ++ (if r.scheme = [] && r.authority = [] then path
      else '/' :: '/' :: r.authority ++ (if isRooted then path else '/' :: path))
    ++ marked '?' r.query ++ marked '#' r.fragment

/-- The segments of a path, seen from another path: one that does not start at the root follows the
directory of the other path, and empty segments between the first and the last are dropped. -/
def segments (base path : List Char) : List (List Char) :=
  if path.head? = some '/' then splitOn '/' path
  else
    let directory := splitOn '/' base
    let directory := if directory.getLast? = some [] then directory else directory.dropLast
    match directory ++ splitOn '/' path with
    | [] => []
    | [only] => [only]
    | first :: rest => first :: (rest.dropLast.filter (· ≠ []) ++ rest.getLast?.toList)

/-- The segments of a path after another segment, last one first.  A segment `.` is dropped and a
segment `..` takes the one before it away. -/
def resolveDot (output : List (List Char)) (segment : List Char) : List (List Char) :=
  if segment = ['.', '.'] then output.tail
  else if segment = ['.'] then output
  else segment :: output

/-- The segments of a path without `.` and `..`; a last one of these two leaves a slash behind. -/
def resolveDots (segments : List (List Char)) : List (List Char) :=
  let resolved := (segments.foldl resolveDot []).reverse
  let last := segments.getLast?
  if last = some ['.'] ∨ last = some ['.', '.'] then resolved ++ [[]] else resolved

def mergePath (base path : List Char) : List Char :=
  let merged := joinWith '/' (resolveDots (segments base path))
  if merged = [] then ['/'] else merged

/-- The parts of a reference with the missing ones taken over. -/
def inherit (base ref : Reference) : Reference :=
  if ref.authority ≠ [] then ref
  else if ref.path = [] ∧ ref.params = [] then
    { ref with
      authority := base.authority
      path := base.path
      params := base.params
      query := if ref.query = [] then base.query else ref.query }
  else { ref with authority := base.authority, path := mergePath base.path ref.path }

/-- The text that a reference stands for, seen from the text of a URL.  One of another scheme, or of
a scheme without relative references, stands for itself. -/
def resolve (base ref : List Char) : List Char :=
  if base = [] then ref
  else if ref = [] then base
  else
    let baseParts := ofText [] base
    let refParts := ofText baseParts.scheme ref
    if refParts.scheme ≠ baseParts.scheme || !relativeSchemes.contains refParts.scheme then ref
    else (baseParts.inherit refParts).render

end Reference

def Url.join? (base ref : Url) : Option Url :=
  Url.parse? (Reference.resolve base.render ref.render)

end LibraryCalls.Web
