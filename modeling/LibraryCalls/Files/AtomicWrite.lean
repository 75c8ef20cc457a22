import LibraryCalls.Files.Tree

/-!
# Writing a file all at once

A text is first written to a temporary file beside the target, which then takes the target's place
in one step.  Whatever fails on the way, the target is as it was and the temporary file is gone;
directories that were missing may have been made.

Failures are of two kinds.  Some follow from the tree: a file where a directory is needed, a name
that is too long, a target that is a directory.  The others come from outside, like a full disk, and
no tree shows them; therefore a write takes the stage at which such a failure strikes, with the part
of the stage that is done by then.  Without a stage nothing fails but for the tree.

The temporary file has the name of the target with a number and an ending behind it.  The number is
the first one whose name is free in the directory, and there are more numbers to try than entries in
the tree.

* `Stage`: the steps of a write, each of which may be made to fail;
* `FileTree.makeParents`: the directories on the way to the target;
* `FileTree.writeAtomic`: the write;
* `FileTree.createTemporary`, `FileTree.fillAndReplace`: the two parts of a write behind the
  directories.
-/

namespace LibraryCalls

/-- The steps of a write that a failure from outside may strike, when part of their work is done
already. -/
inductive Stage where
  /-- The directories that so many names lead to have been made. -/
  | makeParents (made : Nat)
  | createTemporary
  /-- So many octets have been written. -/
  | writeTemporary (written : Nat)
  | replaceTarget
  deriving DecidableEq, Repr

namespace FileTree

/-- Make a directory at the end of a walk along names, in a directory that is there. -/
def makeDirectory (t : FileTree) (start : Place) (names : List String) :
    Except FileError FileTree :=
  match walkFrom t start names.dropLast with
  | .error e => .error e
  | .ok here =>
    match names.getLast? with
    | none => .error .alreadyExists
    | some name =>
      match t.get? here with
      | some .directory =>
        if name = ".." then .error .alreadyExists
        else if maxName < name.utf8ByteSize then .error .tooLong
        else if (t.get? (here ++ [name])).isSome then .error .alreadyExists
        else .ok (t.put (here ++ [name]) .directory)
      | some (.file _) => .error .notDirectory
      | none => .error .notFound

def isDirectory (t : FileTree) (start : Place) (names : List String) : Bool :=
  match walkFrom t start names with
  | .ok place => t.get? place = some .directory
  | .error _ => false

/-- Make a directory that may be there already. -/
def ensureDirectory (t : FileTree) (start : Place) (names : List String) :
    FileTree × Option FileError :=
  match t.makeDirectory start names with
  | .ok t => (t, none)
  | .error e => (t, if t.isDirectory start names then none else some e)

/-- Make a directory, given by its names from the last to the first, and those it lies in as far as
they are missing.  A failure gives the tree with the directories made before it. -/
def ensureAll (t : FileTree) (start : Place) : List String → FileTree × Option FileError
  | [] => (t, none)
  | name :: up =>
    let names := (name :: up).reverse
    match t.makeDirectory start names with
    | .error .notFound =>
      match t.ensureAll start up with
      | (t, some e) => (t, some e)
      | (t, none) => t.ensureDirectory start names
    | _ => t.ensureDirectory start names

/-- Make the directories on the way to a path, as far as they are missing. -/
def makeParents (broken : Option Stage) (t : FileTree) (path : Path) :
    FileTree × Option FileError :=
  match broken with
  | some (.makeParents made) =>
    ((t.ensureAll (t.start path) (path.parent.names.take made).reverse).1, some .failed)
  | _ =>
    if path.parent.toString.toList.contains '\x00' then (t, some .embeddedNull)
    else if maxPath < path.parent.toString.utf8ByteSize then (t, some .tooLong)
    else t.ensureAll (t.start path) path.parent.names.reverse

/-- A number of at least eight digits. -/
def eightDigits (n : Nat) : String :=
  String.ofList (List.replicate (8 - (Nat.toDigits 10 n).length) '0' ++ Nat.toDigits 10 n)

/-- The name of the temporary file for a target, the `n`th choice. -/
def temporaryName (target : String) (n : Nat) : String :=
  target ++ "." ++ eightDigits n ++ ".tmp"

/-- The first choice of a temporary name that is free in a directory. -/
def freeName (t : FileTree) (directory : Place) (target : String) : Nat → Nat → String
  | 0, n => temporaryName target n
  | fuel + 1, n =>
    if (t.get? (directory ++ [temporaryName target n])).isNone then temporaryName target n
    else freeName t directory target fuel (n + 1)

/-- The length of the path that leads from the root to a place. -/
def pathSize (p : Place) : Nat :=
  (Path.toString ⟨['/'], p⟩).utf8ByteSize

/-- Create an empty temporary file for the target of a path, in the directory that the target is to
lie in. -/
def createTemporary (broken : Option Stage) (t : FileTree) (directory : Place) (path : Path) :
    Except FileError (FileTree × Place) :=
  if broken = some .createTemporary then .error .failed
  else
    match t.get? directory with
    | none => .error .notFound
    | some (.file _) => .error .notDirectory
    | some .directory =>
      let name := t.freeName directory path.name t.entries.length 0
      let place := directory ++ [name]
      if path.toString.toList.contains '\x00' then .error .embeddedNull
      else if maxName < name.utf8ByteSize ∨ maxPath < pathSize place then .error .tooLong
      else .ok (t.put place (.file []), place)

/-- Let a file take the place of the target of a path; the target may be a file or be missing. -/
def replaceTarget (broken : Option Stage) (t : FileTree) (temporary directory : Place)
    (path : Path) : Except FileError FileTree :=
  if broken = some .replaceTarget then .error .failed
  else if maxPath < path.toString.utf8ByteSize then .error .tooLong
  else if path.name = "" ∨ path.name = ".." then .error .busy
  else
    match t.get? temporary, t.get? (directory ++ [path.name]) with
    | none, _ => .error .notFound
    | _, some .directory => .error .isDirectory
    | some entry, _ => .ok ((t.put (directory ++ [path.name]) entry).remove temporary)

/-- The part of a write that comes after the temporary file has been made; on a failure that file is
removed. -/
def fillAndReplace (broken : Option Stage) (t : FileTree) (temporary directory : Place)
    (path : Path) (text : String) : FileTree × Except FileError Unit :=
  match broken with
  | some (.writeTemporary written) =>
    ((t.put temporary (.file ((Text.encode text).take written))).remove temporary, .error .failed)
  | _ =>
    let filled := t.put temporary (.file (Text.encode text))
    match filled.replaceTarget broken temporary directory path with
    | .ok t => (t, .ok ())
    | .error e => (filled.remove temporary, .error e)

/-- Write a text to the file that a path leads to.  `broken` is the step, if any, that fails for a
reason from outside. -/
def writeAtomic (broken : Option Stage) (t : FileTree) (path : Path) (text : String) :
    FileTree × Except FileError Unit :=
  match t.makeParents broken path with
  | (t, some e) => (t, .error e)
  | (t, none) =>
    match walkFrom t (t.start path) path.parent.names with
    | .error e => (t, .error e)
    | .ok directory =>
      match t.createTemporary broken directory path with
      | .error e => (t, .error e)
      | .ok (t, temporary) => t.fillAndReplace broken temporary directory path text

end FileTree

end LibraryCalls
