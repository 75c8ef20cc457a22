/-!
# YAML documents

The nodes of a document: scalars, which are plain or quoted, lists, and mappings whose entries keep
their order.

What a scalar means is not decided here: a node has the characters of a scalar and whether they
stood in quotes, and the value is worked out from that in `LibraryCalls.Yaml.Scalar`.  Keys are
nodes as well, for a document may write any node as a key; that only scalars can be keys is a matter
of its value and not of its form.

Line ends come in five spellings, two of which are kept in a text and three of which count as line
feeds.  Three dashes or three dots alone at the head of a line separate documents.

* `Node`: the nodes of a document;
* `isBreak`, `breakChar`: the line ends, and what they count for inside a scalar;
* `isPrintable`: the characters that a document may hold;
* `separatorAhead`: the lines between documents.
-/

namespace LibraryCalls.Yaml

/-- A node of a document, as it is written. -/
inductive Node where
  | plain (text : List Char)
  | quoted (text : List Char)
  | list (items : List Node)
  | mapping (entries : List (Node × Node))
  deriving Repr, Inhabited

def Node.missing : Node := .plain []

def isBreak (c : Char) : Bool :=
  c = '\n' || c = '\r' || c.toNat = 0x85 || c.toNat = 0x2028 || c.toNat = 0x2029

/-- A line end as it counts in a text: the ordinary ones are line feeds. -/
def breakChar (c : Char) : Char :=
  if c.toNat = 0x2028 ∨ c.toNat = 0x2029 then c else '\n'

/-- Whether a text is at its end, or at a blank or a line end. -/
def blankAhead : List Char → Bool
  | [] => true
  | c :: _ => c = ' ' || c = '\t' || isBreak c

def isPrintable (c : Char) : Bool :=
  let n := c.toNat
  n = 0x09 || n = 0x0A || n = 0x0D || (0x20 ≤ n && n ≤ 0x7E) || n = 0x85
    || (0xA0 ≤ n && n ≤ 0xD7FF) || (0xE000 ≤ n && n ≤ 0xFFFD) || 0x10000 ≤ n

/-- Whether three dashes, or three dots, stand alone at the head of a text. -/
def markerAhead (mark : Char) : List Char → Bool
  | a :: b :: c :: rest => a = mark && b = mark && c = mark && blankAhead rest
  | _ => false

/-- Whether a line that separates documents is ahead. -/
def separatorAhead (cs : List Char) : Bool :=
  markerAhead '-' cs || markerAhead '.' cs

end LibraryCalls.Yaml
