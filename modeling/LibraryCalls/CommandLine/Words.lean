import LibraryCalls.Assoc
import LibraryCalls.Text.Cut

/-!
# The words of a command line

Words are options, values of options and operands.  An option starts with a dash; it stands alone or
takes a value, which is attached with an equals sign or is the next word, whatever that is.  After
two dashes there are only operands.

Which options exist and which of them take a value is given from outside, so that the same reader
serves the program and each of its commands.  A word that begins with a dash is an option even if it
looks like a number, except for a single dash, which is an operand.

The first thing that is wrong with the words ends their reading: an option that is not known, one
that stands alone and is given a value, or one that lacks its value at the end of the line.  When an
option is given twice, its last value counts.

* `Words.read`: the options and operands in a list of words;
* `UsageError`: what can be wrong with them;
* `Options`: the options that may occur;
* `Words.value?`, `Words.has`: the value of an option, and whether one that stands alone is there.
-/

namespace LibraryCalls.CommandLine

/-- What is wrong with the words of a command line. -/
inductive UsageError where
  | unknownOption (name : String)
  | missingValue (option : String)
  | unexpectedValue (option : String)
  | missingOption (name : String)
  | missingOperand (name : String)
  | extraOperand (word : String)
  | missingCommand
  | unknownCommand (name : String)
  | noSuchFile (option path : String)
  | isDirectory (option path : String)
  | embeddedNull (option : String)
  deriving DecidableEq, Repr

def UsageError.message : UsageError → String
  | .unknownOption name => s!"No such option: {name}"
  | .missingValue option => s!"Option '{option}' requires an argument."
  | .unexpectedValue option => s!"Option '{option}' does not take a value."
  | .missingOption name => s!"Missing option '{name}'."
  | .missingOperand name => s!"Missing argument '{name}'."
  | .extraOperand word => s!"Got unexpected extra argument ({word})"
  | .missingCommand => "Missing command."
  | .unknownCommand name => s!"No such command '{name}'."
  | .noSuchFile option path => s!"Invalid value for '{option}': File '{path}' does not exist."
  | .isDirectory option path => s!"Invalid value for '{option}': File '{path}' is a directory."
  | .embeddedNull option => s!"Invalid value for '{option}': embedded null byte"

/-- The options that may occur: those that stand alone and those that take a value. -/
structure Options where
  flags : List String
  valued : List String := []

/-- What words say.  Of an option given twice the last value counts. -/
structure Words where
  flags : List String := []
  values : Assoc String String := []
  operands : List String := []
  deriving DecidableEq, Repr

namespace Words

def withFlag (name : String) (w : Words) : Words :=
  { w with flags := name :: w.flags }

def withValue (name value : String) (w : Words) : Words :=
  if w.values.contains name then w else { w with values := (name, value) :: w.values }

def withOperand (word : String) (w : Words) : Words :=
  { w with operands := word :: w.operands }

/-- Whether a word is an option; a single dash is not. -/
def isOption (word : String) : Bool :=
  word.toList.head? = some '-' && word ≠ "-"

/-- The name of an option and the value attached to it. -/
def nameAndValue (word : String) : String × Option String :=
  match Text.cutFirst '=' word.toList with
  | some (name, value) => (String.ofList name, some (String.ofList value))
  | none => (word, none)

/-- Read words.  Options may stand behind operands if `mixed`; otherwise everything from the first
operand on is an operand. -/
def read (options : Options) (mixed : Bool) : List String → Except UsageError Words
  | [] => .ok {}
  | word :: rest =>
    if word = "--" then .ok { operands := rest }
    else if isOption word then
      let (name, attached) := nameAndValue word
      if name ∈ options.flags then
        if attached.isSome then .error (.unexpectedValue name)
        else (read options mixed rest).map (withFlag name)
      else if name ∈ options.valued then
        match attached, rest with
        | some value, rest => (read options mixed rest).map (withValue name value)
        | none, value :: rest => (read options mixed rest).map (withValue name value)
        | none, [] => .error (.missingValue name)
      else .error (.unknownOption name)
    else if mixed then (read options mixed rest).map (withOperand word)
    else .ok { operands := word :: rest }

def value? (w : Words) (name : String) : Option String :=
  w.values.get? name

def has (w : Words) (name : String) : Bool :=
  w.flags.contains name

end Words

end LibraryCalls.CommandLine
