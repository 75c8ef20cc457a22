import LibraryCalls.CommandLine.Words
import LibraryCalls.Files.Tree
import LibraryCalls.Placeholder

/-!
# What a command line asks for

One of three commands, or help.  Options of the whole program stand before the name of the command,
those of the command behind it.

Words come in two layers.  The first layer reads the options of the whole program up to the first
operand, which is the name of the command; the words behind it are read again with the options of
that command, and operands and options may be mixed there.  If help is asked for in a layer that can
be read, help is what the words ask for, whatever the operands are.

The files of the descriptor and of the settings must be there when the words are read, and must be
no directories; that is all a request asks of the files.  Everything else that can go wrong with a
path is left to the command.

* `Command`: the commands with what they are given;
* `Request.ofWords`: the request that words make, or what is wrong with them;
* `Topic`, `helpText`: what help can be asked for, and its text;
* `existingFile`: the check of a path that has to be there.
-/

namespace LibraryCalls.CommandLine

inductive Command where
  /-- Read a call and show it as JSON. -/
  | parse (call brackets : String) (out : Option Path)
  /-- Show the code that a call injects. -/
  | inject (call : String) (descriptor : Path) (policy : Policy) (out : Option Path)
  /-- Show the newest commit that touched the descriptors. -/
  | latestCommit (ref since : Option String) (settings : Option Path)
  deriving DecidableEq, Repr

/-- What help can be asked for: the program as a whole, or one of its commands. -/
inductive Topic where
  | program
  | parse
  | inject
  | latestCommit
  deriving DecidableEq, Repr

/-- What the words after the name of the program ask for. -/
inductive Request where
  | help (topic : Topic)
  /-- Run a command; a verbose run also writes what it reports. -/
  | run (verbose : Bool) (command : Command)
  deriving DecidableEq, Repr

/-- Lines of text, each with its end. -/
def lines (rows : List String) : String :=
  String.join (rows.map (· ++ "\n"))

/-- What the program tells about itself or about one of its commands. -/
def helpText : Topic → String
  | .program => lines
      ["Usage: root [OPTIONS] COMMAND [ARGS]...", "",
        "  Library call resolution CLI", "",
        "Options:",
        "  --verbose             Emit structured INFO logs to stderr.",
        "  --install-completion  Install completion for the current shell.",
        "  --show-completion     Show completion for the current shell, to copy it or",
        "                        customize the installation.",
        "  --help                Show this message and exit.", "",
        "Commands:",
        "  parse          Parse one call and print its name and arguments as JSON.",
        "  inject         Print the repository/dependency/import code a call injects.",
        "  latest-commit  Print the newest commit to the descriptors directory, if any."]
  | .parse => lines
      ["Usage: root parse [OPTIONS] CALL", "",
        "  Parse one call and print its name and arguments as JSON.", "",
        "Arguments:",
        "  CALL  Call text, e.g. 'lib(a=1, \"b\")'.  [required]", "",
        "Options:",
        "  --brackets TEXT  [default: round]",
        "  --out PATH       Write the JSON here instead.",
        "  --help           Show this message and exit."]
  | .inject => lines
      ["Usage: root inject [OPTIONS] CALL", "",
        "  Print the repository/dependency/import code a call injects.", "",
        "Arguments:",
        "  CALL  Invocation naming the descriptor's library.  [required]", "",
        "Options:",
        "  --descriptor FILE  [required]",
        "  --lenient          Leave unresolved $\x7bvar\x7d placeholders verbatim.",
        "  --out PATH         Write the code here instead.",
        "  --help             Show this message and exit."]
  | .latestCommit => lines
      ["Usage: root latest-commit [OPTIONS]", "",
        "  Print the newest commit to the descriptors directory, if any.", "",
        "Options:",
        "  --ref TEXT       Branch, tag or sha.",
        "  --since TEXT     ISO-8601 lower bound.",
        "  --settings FILE",
        "  --help           Show this message and exit."]

/-- Whether a written path can only be that of a directory. -/
def endsInDirectory (text : String) : Bool :=
  match (Text.splitOn '/' text.toList).getLast? with
  | some last => last = [] || last = ['.']
  | none => true

/-- The path of a file that must be there and be no directory. -/
def existingFile (files : FileTree) (option text : String) : Except UsageError Path :=
  match files.walk (Path.ofString text) with
  | .error .embeddedNull => .error (.embeddedNull option)
  | .error _ => .error (.noSuchFile option text)
  | .ok place =>
    match files.get? place with
    | some .directory => .error (.isDirectory option text)
    | some (.file _) =>
      if endsInDirectory text then .error (.noSuchFile option text)
      else .ok (Path.ofString text)
    | none => .error (.noSuchFile option text)

namespace Command

def operand (w : Words) (name : String) : Except UsageError String :=
  match w.operands with
  | [word] => .ok word
  | [] => .error (.missingOperand name)
  | _ :: word :: _ => .error (.extraOperand word)

def noOperand (w : Words) : Except UsageError Unit :=
  match w.operands with
  | [] => .ok ()
  | word :: _ => .error (.extraOperand word)

def path? (w : Words) (name : String) : Option Path :=
  (w.value? name).map Path.ofString

def parseOptions : Options := ⟨["--help"], ["--brackets", "--out"]⟩

def parseOf (w : Words) : Except UsageError Command := do
  let call ← operand w "CALL"
  pure (.parse call ((w.value? "--brackets").getD "round") (path? w "--out"))

def injectOptions : Options := ⟨["--help", "--lenient"], ["--descriptor", "--out"]⟩

def injectOf (files : FileTree) (w : Words) : Except UsageError Command := do
  let call ← operand w "CALL"
  match w.value? "--descriptor" with
  | none => .error (.missingOption "--descriptor")
  | some text =>
    let descriptor ← existingFile files "--descriptor" text
    let policy := if w.has "--lenient" then Policy.lenient else Policy.strict
    pure (.inject call descriptor policy (path? w "--out"))

def latestCommitOptions : Options := ⟨["--help"], ["--ref", "--since", "--settings"]⟩

def latestCommitOf (files : FileTree) (w : Words) : Except UsageError Command := do
  noOperand w
  let settings ← match w.value? "--settings" with
    | none => pure none
    | some text => (existingFile files "--settings" text).map some
  pure (.latestCommit (w.value? "--ref") (w.value? "--since") settings)

end Command

namespace Request

def ofCommand (verbose : Bool) (topic : Topic) (options : Options)
    (make : Words → Except UsageError Command) (words : List String) :
    Except UsageError Request :=
  match Words.read options true words with
  | .error e => .error e
  | .ok w => if w.has "--help" then .ok (.help topic) else (make w).map (.run verbose)

def ofWords (files : FileTree) (words : List String) : Except UsageError Request :=
  match Words.read ⟨["--help", "--verbose"], []⟩ false words with
  | .error e => .error e
  | .ok w =>
    if w.has "--help" then .ok (.help .program)
    else
      let verbose := w.has "--verbose"
      match w.operands with
      | [] => .error .missingCommand
      | name :: rest =>
        match name with
        | "parse" => ofCommand verbose .parse Command.parseOptions Command.parseOf rest
        | "inject" =>
          ofCommand verbose .inject Command.injectOptions (Command.injectOf files) rest
        | "latest-commit" =>
          ofCommand verbose .latestCommit Command.latestCommitOptions
            (Command.latestCommitOf files) rest
        | _ => .error (.unknownCommand name)

end Request

end LibraryCalls.CommandLine
