import LibraryCalls.CommandLine.Run

/-!
# The program

The outer layer of the command line: it looks up the files that the words may mean, runs the command
on them, puts the changed files back, and prints.  It has no connection to a web.

Everything here runs in `IO` and decides nothing.  What a command does is `CommandLine.Command.run`,
a function of the files and the web; this layer makes the tree of files for it and puts its changes
back.  The tree holds what the words could mean as paths, with the directories on the way.

An entry that has been written is put back through a temporary file beside it, so that its content
changes in one step.  As there is no connection to a web, a question for the newest commit meets a
web without answers and comes to nothing.

* `load`, `save`: the files before a command, and after it;
* `main`: a run of the program.
-/

open LibraryCalls LibraryCalls.CommandLine

namespace LibraryCalls.Disk

def pathOf (place : Place) : String :=
  "/" ++ "/".intercalate place

def entryAt (place : Place) : IO (Option Entry) := do
  let path := (← IO.currentDir) / pathOf place
  if ← path.isDir then
    return some .directory
  else if ← path.pathExists then
    return some (.file (← IO.FS.readBinFile path).data.toList)
  else
    return none

/-- The places on the way along names, from a place on. -/
def placesFrom (here : Place) : List String → List Place
  | [] => []
  | name :: rest =>
    let next := if name = ".." then here.dropLast else here ++ [name]
    next :: placesFrom next rest

def mentioned (words : List String) : List String :=
  words ++ words.filterMap fun w => (Words.nameAndValue w).2

/-- The tree of the files and directories that words may mean. -/
def load (words : List String) : IO FileTree := do
  let here := (Path.ofString (← IO.currentDir).toString).names
  let mut tree := FileTree.ofEntries here []
  for text in mentioned words do
    let path := Path.ofString text
    for place in placesFrom (tree.start path) path.names do
      if let some entry ← entryAt place then
        tree := tree.plant place entry
  return tree

/-- Put an entry at a place; a file takes its place in one step. -/
def save (place : Place) : Entry → IO Unit
  | .directory => IO.FS.createDirAll (pathOf place)
  | .file content => do
    let temporary := pathOf place ++ "." ++ toString (← IO.monoNanosNow) ++ ".tmp"
    let handle ← IO.FS.Handle.mk temporary .writeNew
    try
      handle.write ⟨content.toArray⟩
      handle.flush
      IO.FS.rename temporary (pathOf place)
    catch e =>
      IO.FS.removeFile temporary
      throw e

end LibraryCalls.Disk

open LibraryCalls.Disk in
/-- Run the command that the words ask for. -/
def main (words : List String) : IO UInt32 := do
  let tree ← load words
  match Request.ofWords tree words with
  | .error e =>
    IO.eprintln s!"Error: {e.message}"
    return 2
  | .ok (.help topic) =>
    IO.print (helpText topic)
    return 0
  | .ok (.run verbose command) =>
    let outcome := command.run none tree { answers := [] }
    for (place, entry) in tree.changes outcome.files do
      save place entry
    if verbose then
      for record in outcome.records do
        IO.eprintln s!"{record.logger} {record.message}"
    match outcome.ending with
    | .ok ending =>
      IO.print ending.output
      return ending.status.toUInt32
    | .error fault =>
      IO.eprintln s!"Error: {fault.description}"
      return 1
