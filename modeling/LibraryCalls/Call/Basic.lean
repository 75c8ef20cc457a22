/-!
# Library calls

A call names a library and gives it arguments, as in `lib(v=2.0, "a, b")`.  This module holds the
data: an argument, a call, the pair of brackets a call is written with, and the one way in which a
call text can be wrong.

Names and values are kept as they are meant, not as they are written: quotes, escapes and the blanks
around a value belong to the text of a call and are gone once it is read.  A positional argument is
one with the empty name, so that the arguments of a call are a single list in the order of the text,
named and positional ones side by side.

An argument can hold texts of any type, with `String` for the one that is meant when none is named.
Only arguments that are bound to a descriptor read into other texts make use of this.

A call is read and written with one pair of brackets, `Brackets.round` unless something else is
asked for.  The closing bracket matters inside the arguments too, where it ends an argument like a
comma.

* `Argument`, `Call`: what is read and written;
* `Brackets`, `Brackets.terminators`: the brackets, and the characters that end an argument;
* `Call.SyntaxError`: the offending character, its position, and the text in which it stands.
-/

namespace LibraryCalls

/-- One argument of a call.  A positional argument has the empty name. -/
structure Argument (τ : Type := String) where
  name : τ
  value : τ
  deriving DecidableEq, Repr

/-- The name of a library and the arguments given to it, in the order in which they are written. -/
structure Call where
  name : String
  arguments : List Argument
  deriving DecidableEq, Repr

/-- The two characters around the arguments of a call. -/
structure Brackets where
  opening : Char
  closing : Char
  deriving DecidableEq, Repr

namespace Brackets

def round : Brackets := ⟨'(', ')'⟩

def square : Brackets := ⟨'[', ']'⟩

/-- The characters that end an argument which is not quoted: the comma and the closing bracket. -/
def terminators (b : Brackets) : List Char := [b.closing, ',']

end Brackets

namespace Call

/-- The one fault a call text can have: a character, other than a blank, between the quote that
closes a value and the end of its argument. -/
structure SyntaxError where
  /-- The offending character. -/
  char : Char
  /-- Its position in `source`. -/
  position : Nat
  /-- The text of all arguments, without the brackets. -/
  source : String
  deriving DecidableEq, Repr

def SyntaxError.message (e : SyntaxError) : String :=
  s!"Cannot parse library arguments: unexpected char '{e.char}' on position {e.position}"
    ++ s!" in arguments string '{e.source}'"

end Call

end LibraryCalls
