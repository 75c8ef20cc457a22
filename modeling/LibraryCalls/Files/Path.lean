import LibraryCalls.Text.Split

/-!
# Paths

A path is an anchor, which is empty for a relative path, and the names that lead on from it.  Empty
names and `.` do not count, so a path has one written form; `..` stays, because where it leads
depends on what is there.

A text that begins with one slash, or with three and more, has the anchor of the root; one that
begins with exactly two slashes has an anchor of its own, which leads to the root as well but is
written differently.  Reading a path does not look at any file, and therefore nothing is struck out
that could matter: what a name followed by `..` leads to depends on whether that name is a
directory.

A path below another one is what one gets by walking along the first and then along the second, and
so an absolute second path makes the first one irrelevant.

* `Path.ofString`, `Path.toString`: reading and writing;
* `Path.join`: one path below another; `Path.stem`: a file name without its last extension;
* `Path.anchorOf`, `Path.isAbsolute`: the beginning of a path;
* `Path.name`, `Path.parent`: its last name, and what is left without it.
-/

namespace LibraryCalls

open Text

structure Path where
  /-- Nothing, one slash, or the two slashes of a path that starts with exactly two. -/
  anchor : List Char
  names : List String
  deriving DecidableEq, Repr

namespace Path

/-- The anchor of a text that starts with so many slashes. -/
def anchorOf (slashes : Nat) : List Char :=
  if slashes = 0 then [] else if slashes = 2 then ['/', '/'] else ['/']

def ofString (text : String) : Path :=
  let cs := text.toList
  ⟨anchorOf (cs.takeWhile (· = '/')).length,
    ((splitOn '/' cs).filter fun part => part ≠ [] ∧ part ≠ ['.']).map String.ofList⟩

/-- The written form of a path; the empty path is a dot. -/
protected def toString (p : Path) : String :=
  if p.anchor = [] ∧ p.names = [] then "."
  else String.ofList (p.anchor ++ joinWith '/' (p.names.map String.toList))

/-- Whether a path does not depend on where one stands. -/
def isAbsolute (p : Path) : Bool :=
  p.anchor ≠ []

/-- A path below another one; an absolute path is nowhere but where it is. -/
def join (p q : Path) : Path :=
  if q.isAbsolute then q else ⟨p.anchor, p.names ++ q.names⟩

/-- The last name of a path, empty if there is none. -/
def name (p : Path) : String :=
  p.names.getLast?.getD ""

def parent (p : Path) : Path :=
  ⟨p.anchor, p.names.dropLast⟩

/-- A file name up to its last dot, unless that dot is its first or its last character. -/
def stem (name : String) : String :=
  let back := name.toList.reverse
  match back.dropWhile (· ≠ '.') with
  | '.' :: before =>
    if before = [] ∨ back.head? = some '.' then name else String.ofList before.reverse
  | _ => name

end Path

end LibraryCalls
