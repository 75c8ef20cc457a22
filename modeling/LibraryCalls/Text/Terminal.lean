/-!
# Control sequences of terminals

A control sequence is the escape character, an opening square bracket, parameters and one letter; it
sets colours and moves the cursor.  A text that is put out as a plain text has none.

Parameters are digits, semicolons and question marks.  An escape character that begins no such
sequence stays in the text, and so does a sequence that is cut off before its letter.  Sequences are
taken out from left to right, and what is left is not looked at again: if the text around a sequence
happens to form another one when it is gone, that one stays.

Whatever a command puts out goes through this; what it writes to a file does not.

* `sequenceLength`: how much of a text is a control sequence at its head;
* `withoutSequences`: a text without its control sequences;
* `dropSequences`: the run over a text, with the number of characters that are still to be dropped.
-/

namespace LibraryCalls.Text

/-- The characters that parameters of a control sequence are made of. -/
def isParameterChar (c : Char) : Bool :=
  c = ';' || c = '?' || c.isDigit

/-- The length of the control sequence at the head of a text, zero if there is none. -/
def sequenceLength : List Char → Nat
  | '\x1b' :: '[' :: rest =>
    match rest.dropWhile isParameterChar with
    | c :: _ => if c.isAlpha then (rest.takeWhile isParameterChar).length + 3 else 0
    | [] => 0
  | _ => 0

/-- A text without its control sequences, from a place on where so many characters are still part of
one. -/
def dropSequences : Nat → List Char → List Char
  | _, [] => []
  | n + 1, _ :: cs => dropSequences n cs
  | 0, c :: cs =>
    match sequenceLength (c :: cs) with
    | 0 => c :: dropSequences 0 cs
    | n + 1 => dropSequences n cs

def withoutSequences (text : String) : String :=
  String.ofList (dropSequences 0 text.toList)

end LibraryCalls.Text
