import LibraryCalls.Text.Hidden

/-!
# Texts between quotes

A text as it is shown inside a message or a list: between quotes, with every hidden character in a
written form.

The quotes are single ones unless the text makes double ones the better choice.  A backslash stands
before the quote and before itself; line ends and tabs are written with a letter; any other hidden
character is written with the digits of its code point, two, four or eight of them, after a letter
that says how many there are.

So the form is on one line, it shows every difference between two texts, and it can be read back;
the last is not used anywhere and not proved.

* `quoteFor`: which quotes a text gets;
* `showChar`: a character between quotes;
* `quoted`: the whole.
-/

namespace LibraryCalls.Text

/-- The quote around a text: single, unless the text holds single quotes and no double ones. -/
def quoteFor (cs : List Char) : Char :=
  if cs.contains '\'' && !cs.contains '"' then '"' else '\''

/-- The last hexadecimal digits of a number, as many as asked for. -/
def hexDigits : Nat → Nat → List Char
  | 0, _ => []
  | width + 1, n => hexDigits width (n / 16) ++ [Nat.digitChar (n % 16)]

/-- The digits of a code point after the letter that says how many there are. -/
def codePoint (n : Nat) : List Char :=
  if n < 0x100 then 'x' :: hexDigits 2 n
  else if n < 0x10000 then 'u' :: hexDigits 4 n
  else 'U' :: hexDigits 8 n

/-- A character as it stands between quotes of the given kind. -/
def showChar (quote c : Char) : List Char :=
  if c = quote || c = '\\' then ['\\', c]
  else if c = '\n' then ['\\', 'n']
  else if c = '\r' then ['\\', 'r']
  else if c = '\t' then ['\\', 't']
  else if isHidden c then '\\' :: codePoint c.toNat
  else [c]

def quoted (cs : List Char) : List Char :=
  quoteFor cs :: cs.flatMap (showChar (quoteFor cs)) ++ [quoteFor cs]

end LibraryCalls.Text
