import LibraryCalls.Text.Blank
import LibraryCalls.Call.Basic

/-!
# Writing a call

The text of a call, written so that reading it gives the call back.  A value is quoted unless it is
non-empty and free of blanks and of the characters that mean something to the reader.  One thing
cannot be written: a positional value that holds `=`, because the first `=` always ends a name.

There are many texts for one call, and this one is the most sparing: a value that needs no quotes
has none, arguments are separated by a comma and one blank, and a name stands right before its
equals sign.  Inside quotes a backslash goes before each quote and each backslash, and before
nothing else.

Names are written as they are.  A name that holds an equals sign or has blanks around it is
therefore not read back as it was; which calls are read back is settled in
`LibraryCalls.Proofs.Call.RoundTrip`.

* `escapeValue`, `Brackets.renderValue`: a value and the inside of its quotes;
* `Argument.render`, `Argument.renderAll`: arguments;
* `Call.render`: the text of a call.
-/

namespace LibraryCalls

open Text

/-- The inside of a quoted value: a backslash goes before each quote and each backslash. -/
def escapeValue : List Char → List Char
  | [] => []
  | c :: cs => if c = '\\' ∨ c = '"' then '\\' :: c :: escapeValue cs else c :: escapeValue cs

/-- Whether a character may stand in a value without quotes. -/
def Brackets.isPlain (b : Brackets) (c : Char) : Bool :=
  !(c = '"' || c = '\\' || c = ',' || c = b.opening || c = b.closing || isBlank c)

def Brackets.renderValue (b : Brackets) (value : List Char) : List Char :=
  if value ≠ [] ∧ value.all b.isPlain then value
  else '"' :: escapeValue value ++ ['"']

def Argument.render (b : Brackets) (a : Argument) : List Char :=
  let value := b.renderValue a.value.toList
  if a.name = "" then value else a.name.toList ++ '=' :: value

def Argument.renderAll (b : Brackets) : List Argument → List Char
  | [] => []
  | [a] => a.render b
  | a :: rest => a.render b ++ ',' :: ' ' :: renderAll b rest

/-- A call as it is written with the brackets `b`. -/
def Call.render (b : Brackets) (call : Call) : String :=
  String.ofList
    (call.name.toList ++ b.opening :: Argument.renderAll b call.arguments ++ [b.closing])

end LibraryCalls
