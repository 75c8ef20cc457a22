import LibraryCalls.Assoc
import LibraryCalls.Files.Path
import LibraryCalls.Text.Utf8

/-!
# File trees

The files and directories a program can see, and the directory it runs in.  A file is found by
walking name by name, from there or from the root, so that `..` and a file in the middle of a path
mean what they mean on a disk.

A tree is a map from places to entries, with the root left out: it is always there and always a
directory.  Nothing keeps a tree from having an entry in a directory that it does not have; walks
never reach such an entry, and `FileTree.ofEntries` puts the directories on the way into the tree
that it makes.

There are no links, no permissions and no devices.  The two limits that files are likely to meet in
practice are there, the length of a name and that of a path in octets, and a path with a NUL
character in it cannot be looked up.  Texts in files are in UTF-8, with the line ends of any
convention.

* `FileTree.walk`: the place that a path leads to;
* `FileTree.read`, `FileTree.readText`: the content of a file;
* `FileTree.children`: the entries of a directory;
* `FileTree.walkFrom`: a walk from a place along names;
* `FileTree.put`, `FileTree.remove`: a tree with another entry, or without one;
* `FileError`: why a file cannot be read or written.
-/

namespace LibraryCalls

/-- What stands at a place of a file tree. -/
inductive Entry where
  | file (content : Text.Octets)
  | directory
  deriving DecidableEq

/-- The names that lead from the root of a tree to a place. -/
abbrev Place := List String

/-- The entries of a tree.  The root, which no entry names, is a directory. -/
structure FileTree where
  entries : Assoc Place Entry := []
  /-- The place from which relative paths lead. -/
  here : Place := []

inductive FileError where
  | notFound
  | alreadyExists
  | isDirectory
  | notDirectory
  /-- A name or a whole path is too long. -/
  | tooLong
  /-- The place is one that cannot be replaced. -/
  | busy
  /-- The path holds a NUL character. -/
  | embeddedNull
  | undecodable (reason : Text.Undecodable)
  /-- A failure from outside, such as a full disk. -/
  | failed
  deriving DecidableEq, Repr

def FileError.description : FileError → String
  | .notFound => "no such file or directory"
  | .alreadyExists => "the file exists already"
  | .isDirectory => "there is a directory"
  | .notDirectory => "there is no directory"
  | .tooLong => "the name is too long"
  | .busy => "the place cannot be replaced"
  | .embeddedNull => "embedded null byte"
  | .undecodable reason => reason.message
  | .failed => "the write failed"

namespace FileTree

def get? (t : FileTree) (p : Place) : Option Entry :=
  if p = [] then some .directory else Assoc.get? t.entries p

def put (t : FileTree) (p : Place) (e : Entry) : FileTree :=
  { t with entries := Assoc.set t.entries p e }

def remove (t : FileTree) (p : Place) : FileTree :=
  { t with entries := t.entries.filter fun e => e.1 ≠ p }

def maxName : Nat := 255

def maxPath : Nat := 4095

/-- The place from which a path leads. -/
def start (t : FileTree) (path : Path) : Place :=
  if path.isAbsolute then [] else t.here

/-- Walk from a place along names.  Every step starts in a directory; the last one may end at a
file.  Above the root there is only the root. -/
def walkFrom (t : FileTree) : Place → List String → Except FileError Place
  | here, [] => .ok here
  | here, name :: rest =>
    match t.get? here with
    | none => .error .notFound
    | some (.file _) => .error .notDirectory
    | some .directory =>
      if name = ".." then walkFrom t here.dropLast rest
      else if maxName < name.utf8ByteSize then .error .tooLong
      else if (t.get? (here ++ [name])).isNone then .error .notFound
      else walkFrom t (here ++ [name]) rest

def walk (t : FileTree) (path : Path) : Except FileError Place :=
  if path.toString.toList.contains '\x00' then .error .embeddedNull
  else if maxPath < path.toString.utf8ByteSize then .error .tooLong
  else walkFrom t (t.start path) path.names

def read (t : FileTree) (path : Path) : Except FileError Text.Octets :=
  match t.walk path with
  | .error e => .error e
  | .ok place =>
    match t.get? place with
    | some (.file content) => .ok content
    | some .directory => .error .isDirectory
    | none => .error .notFound

def readText (t : FileTree) (path : Path) : Except FileError String :=
  match t.read path with
  | .error e => .error e
  | .ok content => (Text.decodeFile content).mapError .undecodable

/-- The last name of a place directly below a directory. -/
def childName? (directory place : Place) : Option String :=
  match place.getLast? with
  | some name => if place = directory ++ [name] then some name else none
  | none => none

/-- The names of the entries directly below a place. -/
def namesBelow (t : FileTree) (directory : Place) : List String :=
  t.entries.filterMap fun e => childName? directory e.1

/-- The names of the entries of the directory that a path leads to, none if it leads to no
directory. -/
def children (t : FileTree) (path : Path) : List String :=
  match t.walk path with
  | .error _ => []
  | .ok place =>
    match t.get? place with
    | some .directory => t.namesBelow place
    | _ => []

/-- The proper beginnings of a place, shortest first, without the root. -/
def ancestors (p : Place) : List Place :=
  (List.range p.length).drop 1 |>.map p.take

/-- The tree with an entry put at a place and directories on the way to it. -/
def plant (t : FileTree) (p : Place) (e : Entry) : FileTree :=
  ((ancestors p).foldl
    (fun t q => if (t.get? q).isSome then t else t.put q .directory) t).put p e

/-- The tree that holds a directory to run in, the given entries below that directory, and the
directories on the way to all of them. -/
def ofEntries (here : Place) (entries : List (Place × Entry)) : FileTree :=
  entries.foldl (fun t e => t.plant (here ++ e.1) e.2)
    ((FileTree.mk [] here).plant here .directory)

/-- The entries of a tree that an earlier tree does not have. -/
def changes (before after : FileTree) : Assoc Place Entry :=
  after.entries.filter fun e => before.get? e.1 ≠ some e.2

end FileTree

end LibraryCalls
