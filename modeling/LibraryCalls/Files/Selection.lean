import LibraryCalls.Files.Pattern
import LibraryCalls.Files.Tree

/-!
# Selecting files

The paths below a directory whose names follow a text such as `*.json`, with patterns and names
between slashes.

A text is cut at its slashes like a path, and each name becomes a step: two stars alone lead to any
directory at or below the one that has been reached, a name with marks of patterns leads to the
entries that it stands for, and any other name leads to the entry of that name.  Two stars beside
other characters are refused before any file is looked at.

What the steps lead to is put in order by the names of the paths, compared name by name and not as
texts; so the order of the entries in the tree does not matter.  A directory that is not there has
nothing in it, and this is no failure.

* `Selection.ofText`: the steps that a text denotes;
* `FileTree.select`: the paths that it stands for;
* `SelectionStep`, `SelectionError`: the steps, and why there may be none;
* `FileTree.selectFrom`: the paths to which steps lead.
-/

namespace LibraryCalls

open Text

/-- A step from a directory: to the entries that a pattern stands for, to a name, or to any
directory at or below it. -/
inductive SelectionStep where
  | matching (pattern : List Pattern.Piece)
  | named (name : String)
  | anywhere
  deriving DecidableEq, Repr

/-- Steps from a directory; with `directoriesOnly` they have to end at directories. -/
structure Selection where
  steps : List SelectionStep
  directoriesOnly : Bool
  deriving DecidableEq, Repr

/-- Why no files can be selected: two stars are only part of a name, or the directory cannot be
looked up. -/
inductive SelectionError where
  | starsInName
  | file (error : FileError)
  deriving DecidableEq, Repr

def SelectionError.description : SelectionError → String
  | .starsInName => "Invalid pattern: '**' can only be an entire path component"
  | .file error => error.description

namespace Selection

def hasTwoStars : List Char → Bool
  | '*' :: '*' :: _ => true
  | _ :: rest => hasTwoStars rest
  | [] => false

def step (name : String) : Except SelectionError SelectionStep :=
  let cs := name.toList
  if name = "**" then .ok .anywhere
  else if hasTwoStars cs then .error .starsInName
  else if cs.any fun c => c = '*' || c = '?' || c = '[' then .ok (.matching (Pattern.ofText cs))
  else .ok (.named name)

/-- The steps that a text denotes.  A slash at its end asks for directories. -/
def ofText (text : String) : Except SelectionError Selection := do
  let steps ← (Path.ofString text).names.mapM step
  .ok ⟨steps, text.toList.getLast? = some '/'⟩

end Selection

namespace FileTree

/-- What a path leads to, if there is something.  Only a path that is too long is a failure. -/
def look (t : FileTree) (path : Path) : Except FileError (Option Entry) :=
  match t.walk path with
  | .ok place => .ok (t.get? place)
  | .error .tooLong => .error .tooLong
  | .error _ => .ok none

def leadsToDirectory (t : FileTree) (path : Path) : Except FileError Bool :=
  (t.look path).map fun entry => entry = some .directory

def below (path : Path) (name : String) : Path :=
  ⟨path.anchor, path.names ++ [name]⟩

/-- The directory that a path leads to, and the directories below it. -/
def directoriesFrom (t : FileTree) (path : Path) : List Path :=
  match t.walk path with
  | .error _ => []
  | .ok place =>
    path :: t.entries.filterMap fun e =>
      if e.2 = .directory ∧ place.isPrefixOf e.1 ∧ e.1 ≠ place then
        some ⟨path.anchor, path.names ++ e.1.drop place.length⟩
      else none

/-- The paths to which steps lead from a directory. -/
def selectFrom (t : FileTree) (directoriesOnly : Bool) :
    List SelectionStep → Path → Except FileError (List Path)
  | [], path => .ok [path]
  | step :: rest, path => do
    let needsDirectory := directoriesOnly || rest ≠ []
    let found ←
      match step with
      | .matching pattern => do
        let names := (t.children path).filter fun name => Pattern.fits pattern name.toList
        let paths := names.map (below path)
        if needsDirectory then paths.filterM t.leadsToDirectory else .ok paths
      | .named name => do
        let next := below path name
        let isThere ←
          if needsDirectory then t.leadsToDirectory next else (t.look next).map (·.isSome)
        .ok (if isThere then [next] else [])
      | .anywhere => .ok (t.directoriesFrom path)
    let ends ← found.mapM (selectFrom t directoriesOnly rest)
    .ok ends.flatten.eraseDups

/-- Whether a row of names comes before another one, or is the same. -/
def comesBefore : List String → List String → Bool
  | [], _ => true
  | _ :: _, [] => false
  | a :: as, b :: bs => if a = b then comesBefore as bs else a < b

/-- The paths below a directory that a text stands for, in ascending order.  There are none if there
is no such directory. -/
def select (t : FileTree) (directory : Path) (text : String) :
    Except SelectionError (List Path) := do
  let selection ← Selection.ofText text
  let isThere ← (t.leadsToDirectory directory).mapError .file
  if !isThere then .ok []
  else
    let paths ← (t.selectFrom selection.directoriesOnly selection.steps directory).mapError .file
    .ok (paths.mergeSort fun p q => comesBefore p.names q.names)

end FileTree

end LibraryCalls
