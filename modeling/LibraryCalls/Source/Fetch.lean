import LibraryCalls.Files.Selection
import LibraryCalls.Resolution
import LibraryCalls.Settings.Basic
import LibraryCalls.Source.Origin
import LibraryCalls.Web.Client

/-!
# Getting descriptors

One descriptor's text from a directory or from the repository, and all descriptors of a directory.

The name of a library becomes the name of a file by the extension that is set.  For a directory that
file is looked up below the directory; for a reference it is requested from the repository, as the
last segment of a URL.  In both cases a missing file means that the library is unknown; any other
failure is passed on as it is.

Loading a directory takes its files in order, reports each before it is read, and stops at the first
that cannot be read or is no descriptor.  A file is listed under its stem, and of several files with
one stem the last counts.

* `descriptorUrl`: where a descriptor can be fetched;
* `fetchText`: the text of one descriptor;
* `descriptorPaths`: the descriptor files of a directory, in order;
* `parseAll`, `loadDirectory`: many descriptors, each reported before it is read;
* `FetchError`, `LoadError`: why a text cannot be had, and why a directory cannot be loaded.
-/

namespace LibraryCalls

inductive FetchError where
  | unknownLibrary (name : String)
  | file (error : FileError)
  | web (failure : Web.Failure)
  deriving DecidableEq, Repr

/-- Where the descriptor of a library can be fetched for a reference. -/
def descriptorUrl (settings : Settings) (ref library : String) : String :=
  let segment (c : Char) : Bool := Web.Percent.isUnreserved c
  let path (c : Char) : Bool := segment c || c = '/'
  settings.rawUrl ++ "/" ++ String.ofList (Web.Percent.encode path ref.toList) ++ "/"
    ++ settings.librariesDir ++ "/"
    ++ String.ofList (Web.Percent.encode segment (settings.fileName library).toList)

def descriptorPath (settings : Settings) (directory : Path) (library : String) : Path :=
  directory.join (Path.ofString (settings.fileName library))

/-- A failure to fetch, as a failure to find the library if there is no such file. -/
def FetchError.ofWeb (library : String) (failure : Web.Failure) : FetchError :=
  if failure = .badStatus 404 then .unknownLibrary library else .web failure

/-- The text of a library's descriptor, as it is stored. -/
def fetchText (settings : Settings) (files : FileTree) (follow : Bool) (web : Web)
    (library : String) : Origin → Traced Web.Step FetchError String
  | .directory directory =>
    match files.readText (descriptorPath settings directory library) with
    | .ok text => pure text
    | .error .notFound => Traced.fail (.unknownLibrary library)
    | .error e => Traced.fail (.file e)
  | .git ref _ =>
    let run := Web.getText follow (descriptorUrl settings ref library) web
    ⟨run.steps, (run.outcome.map (·.1)).mapError (FetchError.ofWeb library)⟩

/-- Descriptors in the order in which they are given, by name; the last of a name counts, at the
place of the first.  The first that is rejected ends the run. -/
def parseAll : Assoc String Json → Traced Event Descriptor.Error (Assoc String Descriptor)
  | [] => pure []
  | (name, raw) :: rest => do
    Traced.step (.descriptorParse name none)
    let descriptor ← Traced.ofExcept (Descriptor.ofJson (some name) raw)
    let others ← parseAll rest
    pure ((name, descriptor) :: others)

inductive LoadError where
  | selection (error : SelectionError)
  | file (error : FileError)
  | descriptor (error : Descriptor.ParseError)
  deriving DecidableEq, Repr

/-- The descriptor files of a directory in order: the entries with the right extension, which may
hold patterns. -/
def descriptorPaths (settings : Settings) (files : FileTree) (directory : Path) :
    Except SelectionError (List Path) :=
  files.select directory ("*." ++ settings.extension)

/-- Load files in order, each under its name without the extension. -/
def loadFiles (files : FileTree) :
    Assoc String Descriptor → List Path → Traced Event LoadError (Assoc String Descriptor)
  | loaded, [] => pure loaded
  | loaded, path :: rest => do
    let name := Path.stem path.name
    Traced.step (.descriptorParse name (some path.toString))
    let text ← Traced.ofExcept ((files.readText path).mapError .file)
    let descriptor ←
      Traced.ofExcept ((Descriptor.parse (some name) text).mapError .descriptor)
    loadFiles files (loaded.set name descriptor) rest

/-- Every descriptor of a directory, by the name of its file without the extension. -/
def loadDirectory (settings : Settings) (files : FileTree) (directory : Path) :
    Traced Event LoadError (Assoc String Descriptor) := do
  let paths ← Traced.ofExcept ((descriptorPaths settings files directory).mapError .selection)
  loadFiles files [] paths

end LibraryCalls
