import LibraryCalls.Yaml.Scalar

/-!
# Reading YAML

A reader for documents of block mappings and lists, flow mappings and lists, and plain and quoted
scalars.  In block style the column of a line's first character says what the line belongs to; in
flow style brackets do.  Tags, anchors, block scalars and explicit keys are not read.

A cursor stands at a character and knows its column and whether only spaces precede it on its line.
Readers give the node and the cursor after it, or nothing where the document is faulty.

The readers of nodes are structural in a fuel, about two steps for a character, because a reader may
go over to another one without having read anything, and which of two cursors stands further on is
not seen from their types.  A document in which the fuel ran out would count as faulty.

What is not read makes a document faulty rather than being passed over.  So does a second document
in the same text, and a character that is not printable.

* `readPlain`, `readQuoted`: scalars;
* `flowNode`: flow style; `blockNode`: block style;
* `parse?`: the one document of a text.
-/

namespace LibraryCalls.Yaml

/-- A place in a document. -/
structure Cursor where
  rest : List Char
  column : Nat
  /-- Only spaces precede the place on its line. -/
  fresh : Bool
  deriving Repr

namespace Cursor

def next (c : Cursor) : Cursor :=
  match c.rest with
  | [] => c
  | x :: rest =>
    if isBreak x then ⟨rest, 0, true⟩ else ⟨rest, c.column + 1, c.fresh && x = ' '⟩

def advance : Nat → Cursor → Cursor
  | 0, c => c
  | n + 1, c => advance n c.next

/-- The next place that is no space, no comment and no line end, from a place given by what remains,
its column, and whether it is fresh or inside a comment. -/
def tokenFrom : List Char → Nat → Bool → Bool → Cursor
  | [], column, fresh, _ => ⟨[], column, fresh⟩
  | c :: cs, column, fresh, comment =>
    if isBreak c then tokenFrom cs 0 true false
    else if comment then tokenFrom cs (column + 1) fresh true
    else if c = ' ' then tokenFrom cs (column + 1) fresh false
    else if c = '#' then tokenFrom cs (column + 1) fresh true
    else ⟨c :: cs, column, fresh⟩

/-- The next place that is no space, no comment and no line end. -/
def token (c : Cursor) : Cursor :=
  tokenFrom c.rest c.column c.fresh false

def atEnd (c : Cursor) : Bool :=
  c.rest = [] || (c.column = 0 && separatorAhead c.rest)

def atItem (c : Cursor) : Bool :=
  match c.rest with
  | '-' :: rest => blankAhead rest
  | _ => false

end Cursor

/-! ### Scalars -/

def isFlowMark (c : Char) : Bool :=
  c = ',' || c = '?' || c = '[' || c = ']' || c = '{' || c = '}'

/-- Whether a colon with this text after it separates a key from its value. -/
def separates (flow : Bool) (rest : List Char) : Bool :=
  blankAhead rest ||
    (flow && match rest with
      | c :: _ => isFlowMark c && c ≠ '?'
      | [] => true)

def plainWord (flow : Bool) : List Char → List Char
  | [] => []
  | c :: cs =>
    if c = ' ' || c = '\t' || isBreak c then []
    else if c = ':' && separates flow cs then []
    else if flow && isFlowMark c then []
    else c :: plainWord flow cs

/-- The line ends and the spaces at the head of a text: the line ends, and the place after them. -/
def skipBreaks : List Char → Nat → List Char × Cursor
  | [], column => ([], ⟨[], column, true⟩)
  | c :: cs, column =>
    if isBreak c then
      let (breaks, after) := skipBreaks cs 0
      (breakChar c :: breaks, after)
    else if c = ' ' then skipBreaks cs (column + 1)
    else ([], ⟨c :: cs, column, true⟩)

/-- How line ends count inside a scalar: one is a space, of several the first is dropped. -/
def fold (first : Char) (others : List Char) : List Char :=
  if breakChar first ≠ '\n' then breakChar first :: others
  else if others = [] then [' ']
  else others

/-- The blanks between two words of a plain scalar, as they count, and the place after them. -/
def plainGap (c : Cursor) : List Char × Cursor :=
  let spaces := c.rest.takeWhile (· = ' ')
  let after := Cursor.advance spaces.length c
  match after.rest with
  | b :: rest =>
    if isBreak b then
      let (breaks, place) := skipBreaks rest 0
      (fold b breaks, place)
    else (spaces, after)
  | [] => (spaces, after)

/-- The words of a plain scalar from a place on; `gap` are the blanks before it.  In block style the
scalar ends at a line that starts left of the column `least`. -/
def plainWords (flow : Bool) (least : Nat) : Nat → List Char → Cursor → List Char × Cursor
  | 0, _, c => ([], c)
  | fuel + 1, gap, c =>
    let word := plainWord flow c.rest
    if word = [] || c.rest.head? = some '#' then ([], c)
    else
      let (nextGap, after) := plainGap (Cursor.advance word.length c)
      if nextGap = [] || (after.column = 0 && separatorAhead after.rest)
          || (!flow && after.column < least) then
        (gap ++ word, after)
      else
        let (more, after) := plainWords flow least fuel nextGap after
        (gap ++ word ++ more, after)

def plainAhead (flow : Bool) : List Char → Bool
  | [] => false
  | c :: rest =>
    if c = '-' then !blankAhead rest
    else if c = '?' || c = ':' then !flow && !blankAhead rest
    else
      !(c = ' ' || c = '\t' || isBreak c || isFlowMark c || c = '#' || c = '&' || c = '*'
        || c = '!' || c = '|' || c = '>' || c = '\'' || c = '"' || c = '%' || c = '@'
        || c.toNat = 0x60)

def readPlain (flow : Bool) (least : Nat) (c : Cursor) : Option (Node × Cursor) :=
  if plainAhead flow c.rest then
    let (text, after) := plainWords flow least (c.rest.length + 1) [] c
    some (.plain text, after)
  else none

/-- The line ends and blanks inside a quoted scalar, and the text after them; nothing where a line
separates documents. -/
def quotedBreaks : List Char → Bool → Option (List Char × List Char)
  | [], _ => some ([], [])
  | c :: cs, lineStart =>
    if lineStart && separatorAhead (c :: cs) then none
    else if isBreak c then
      (quotedBreaks cs true).map fun r => (breakChar c :: r.1, r.2)
    else if c = ' ' || c = '\t' then quotedBreaks cs false
    else some ([], c :: cs)

/-- The character that a backslash and a letter stand for. -/
def escapeChar? (c : Char) : Option Char :=
  ([('0', 0), ('a', 7), ('b', 8), ('t', 9), ('\t', 9), ('n', 10), ('v', 11), ('f', 12), ('r', 13),
    ('e', 27), (' ', 32), ('"', 34), ('/', 47), ('\\', 92), ('N', 0x85), ('_', 0xA0),
    ('L', 0x2028), ('P', 0x2029)].find? fun p => p.1 = c).map fun p => Char.ofNat p.2

/-- The number of hexadecimal digits after a letter that announces them. -/
def escapeLength? (c : Char) : Option Nat :=
  if c = 'x' then some 2 else if c = 'u' then some 4 else if c = 'U' then some 8 else none

def hexChar? (digits : List Char) : Option Char :=
  let isHex (c : Char) : Bool :=
    c.isDigit || ('a' ≤ c && c ≤ 'f') || ('A' ≤ c && c ≤ 'F')
  if digits.all isHex then
    some (Char.ofNat (digits.foldl (fun n c => n * 16 + Scalar.hexValue c) 0))
  else none

/-- The text of a quoted scalar up to its closing quote, and what follows the quote. -/
def quotedText (double : Bool) : Nat → List Char → Option (List Char × List Char)
  | 0, _ => none
  | _, [] => none
  | fuel + 1, c :: cs =>
    if !double && c = '\'' then
      match cs with
      | '\'' :: rest => (quotedText double fuel rest).map fun r => ('\'' :: r.1, r.2)
      | rest => some ([], rest)
    else if double && c = '"' then some ([], cs)
    else if double && c = '\\' then
      match cs with
      | [] => none
      | e :: rest =>
        if isBreak e then
          match quotedBreaks rest true with
          | none => none
          | some (breaks, rest) =>
            (quotedText double fuel rest).map fun r => (breaks ++ r.1, r.2)
        else
          match escapeChar? e, escapeLength? e with
          | some x, _ => (quotedText double fuel rest).map fun r => (x :: r.1, r.2)
          | none, some n =>
            if rest.length < n then none
            else
              match hexChar? (rest.take n) with
              | none => none
              | some x =>
                (quotedText double fuel (rest.drop n)).map fun r => (x :: r.1, r.2)
          | none, none => none
    else if c = ' ' || c = '\t' || isBreak c then
      let blanks := (c :: cs).takeWhile fun c => c = ' ' || c = '\t'
      match (c :: cs).dropWhile fun c => c = ' ' || c = '\t' with
      | b :: rest =>
        if isBreak b then
          match quotedBreaks rest true with
          | none => none
          | some (breaks, rest) =>
            (quotedText double fuel rest).map fun r => (fold b breaks ++ r.1, r.2)
        else (quotedText double fuel (b :: rest)).map fun r => (blanks ++ r.1, r.2)
      | [] => none
    else (quotedText double fuel cs).map fun r => (c :: r.1, r.2)

def readQuoted (c : Cursor) : Option (Node × Cursor) :=
  match c.rest with
  | q :: rest =>
    if q = '"' || q = '\'' then
      (quotedText (q = '"') (rest.length + 1) rest).map fun r =>
        (.quoted r.1, Cursor.advance (c.rest.length - r.2.length) c)
    else none
  | [] => none

def readScalar (flow : Bool) (least : Nat) (c : Cursor) : Option (Node × Cursor) :=
  match c.rest with
  | '"' :: _ => readQuoted c
  | '\'' :: _ => readQuoted c
  | _ => readPlain flow least c

/-! ### Flow style -/

mutual

def flowNode : Nat → Cursor → Option (Node × Cursor)
  | 0, _ => none
  | fuel + 1, c =>
    match c.rest with
    | '[' :: _ => (flowItems fuel c.next.token).map fun r => (.list r.1, r.2)
    | '{' :: _ => (flowEntries fuel c.next.token).map fun r => (.mapping r.1, r.2)
    | _ => readScalar true 0 c

/-- The items of a flow list up to its closing bracket. -/
def flowItems : Nat → Cursor → Option (List Node × Cursor)
  | 0, _ => none
  | fuel + 1, c =>
    match c.rest with
    | ']' :: _ => some ([], c.next)
    | _ =>
      match flowNode fuel c with
      | none => none
      | some (item, after) =>
        match flowPair fuel item after.token with
        | none => none
        | some (item, after) =>
          match after.rest with
          | ',' :: _ =>
            (flowItems fuel after.next.token).map fun r => (item :: r.1, r.2)
          | ']' :: _ => some ([item], after.next)
          | _ => none

/-- An item of a flow list, which is a mapping of one entry if a colon follows it. -/
def flowPair : Nat → Node → Cursor → Option (Node × Cursor)
  | 0, _, _ => none
  | fuel + 1, item, c =>
    match c.rest with
    | ':' :: _ =>
      (flowValue fuel c.next.token).map fun r => (.mapping [(item, r.1)], r.2)
    | _ => some (item, c)

/-- The value after a colon in flow style, which may be missing. -/
def flowValue : Nat → Cursor → Option (Node × Cursor)
  | 0, _ => none
  | fuel + 1, c =>
    match c.rest with
    | ',' :: _ | ']' :: _ | '}' :: _ => some (.missing, c)
    | _ => (flowNode fuel c).map fun r => (r.1, r.2.token)

/-- The entries of a flow mapping up to its closing brace. -/
def flowEntries : Nat → Cursor → Option (List (Node × Node) × Cursor)
  | 0, _ => none
  | fuel + 1, c =>
    match c.rest with
    | '}' :: _ => some ([], c.next)
    | _ =>
      match flowNode fuel c with
      | none => none
      | some (key, after) =>
        let after := after.token
        let value := match after.rest with
          | ':' :: _ => flowValue fuel after.next.token
          | _ => some (.missing, after)
        match value with
        | none => none
        | some (value, after) =>
          match after.rest with
          | ',' :: _ =>
            (flowEntries fuel after.next.token).map fun r => ((key, value) :: r.1, r.2)
          | '}' :: _ => some ([(key, value)], after.next)
          | _ => none

end

/-! ### Block style -/

def maxKey : Nat := 1024

def plainKey : Bool → List Char → List Char
  | _, [] => []
  | afterSpace, c :: cs =>
    if isBreak c || c = '\t' || (c = ':' && blankAhead cs) || (c = '#' && afterSpace) then []
    else c :: plainKey (c = ' ') cs

/-- A node that may be a key and stands on one line. -/
def readKeyNode (c : Cursor) : Option (Node × Cursor) :=
  match c.rest with
  | ':' :: rest => if blankAhead rest then some (.missing, c) else plain c
  | '[' :: _ => flowNode (2 * c.rest.length + 2) c
  | '{' :: _ => flowNode (2 * c.rest.length + 2) c
  | '"' :: _ => readQuoted c
  | '\'' :: _ => readQuoted c
  | _ => plain c
where
  plain (c : Cursor) : Option (Node × Cursor) :=
    if plainAhead false c.rest then
      let key := plainKey false c.rest
      some (.plain (key.reverse.dropWhile (· = ' ')).reverse, Cursor.advance key.length c)
    else none

/-- A key and the place after its colon, if an entry of a block mapping begins here. -/
def readKey (c : Cursor) : Option (Node × Cursor) :=
  match readKeyNode c with
  | none => none
  | some (key, after) =>
    let width := c.rest.length - after.rest.length
    let spaces := (after.rest.takeWhile (· = ' ')).length
    match after.rest.drop spaces with
    | ':' :: rest =>
      if (c.rest.take width).any isBreak || maxKey < width + spaces || !blankAhead rest then none
      else some (key, Cursor.advance (spaces + 1) after)
    | _ => none

/-- A scalar, or a node in flow style, inside block style. -/
def inlineNode (least : Nat) (c : Cursor) : Option (Node × Cursor) :=
  match c.rest with
  | '[' :: _ => flowNode (2 * c.rest.length + 2) c
  | '{' :: _ => flowNode (2 * c.rest.length + 2) c
  | _ => readScalar false least c

/-- Whether a node has ended properly: the next token starts a line, or there is none. -/
def endsLine (c : Cursor) : Bool :=
  c.atEnd || c.fresh

mutual

/-- The node that begins here, where a line or an item of a block list begins. -/
def blockNode : Nat → Nat → Cursor → Option (Node × Cursor)
  | 0, _, _ => none
  | fuel + 1, least, c =>
    if c.atItem then (blockItems fuel c.column c).map fun r => (.list r.1, r.2)
    else
      match readKey c with
      | some (key, after) =>
        (blockEntries fuel c.column key after).map fun r => (.mapping r.1, r.2)
      | none => inlineNode least c

/-- The items of a block list at a column, from the dash of the first on. -/
def blockItems : Nat → Nat → Cursor → Option (List Node × Cursor)
  | 0, _, _ => none
  | fuel + 1, column, c =>
    let start := c.next.token
    let item :=
      if start.atEnd || (start.fresh && start.column ≤ column) then some (.missing, start)
      else blockNode fuel (column + 1) start
    match item with
    | none => none
    | some (item, after) =>
      let after := after.token
      if !endsLine after then none
      else if !after.atEnd && after.column = column && after.atItem then
        (blockItems fuel column after).map fun r => (item :: r.1, r.2)
      else some ([item], after)

/-- The entries of a block mapping at a column, from the first one's value on. -/
def blockEntries : Nat → Nat → Node → Cursor → Option (List (Node × Node) × Cursor)
  | 0, _, _, _ => none
  | fuel + 1, column, key, c =>
    let start := c.token
    let value :=
      if start.atEnd then some (.missing, start)
      else if !start.fresh then inlineNode (column + 1) start
      else if column < start.column then blockNode fuel (column + 1) start
      else if start.column = column && start.atItem then
        (blockItems fuel column start).map fun r => (.list r.1, r.2)
      else some (.missing, start)
    match value with
    | none => none
    | some (value, after) =>
      let after := after.token
      if !endsLine after then none
      else if after.atEnd || after.column < column then some ([(key, value)], after)
      else if column < after.column then none
      else
        match readKey after with
        | none => none
        | some (nextKey, rest) =>
          (blockEntries fuel column nextKey rest).map fun r => ((key, value) :: r.1, r.2)

end

/-! ### Documents -/

/-- The place after the lines that end a document and hold nothing else. -/
def skipEnds : Nat → Cursor → Cursor
  | 0, c => c
  | fuel + 1, c =>
    if c.column = 0 && markerAhead '.' c.rest then
      skipEnds fuel (Cursor.advance 3 c).token
    else c

/-- The document that begins here, and the place after it. -/
def readDocument (c : Cursor) : Option (Node × Cursor) :=
  let fuel := 2 * c.rest.length + 4
  if c.column = 0 && markerAhead '-' c.rest then
    let start := (Cursor.advance 3 c).token
    if start.atEnd then some (.missing, start)
    else if start.fresh then blockNode fuel 0 start
    else inlineNode 0 start
  else blockNode fuel 0 c

/-- The one document of a text; a text without any stands for a missing node. -/
def parse? (text : String) : Option Node :=
  let cs := text.toList
  if !cs.all isPrintable then none
  else
    let cs := if cs.head? = some '\uFEFF' then cs.drop 1 else cs
    let start := skipEnds cs.length (Cursor.mk cs 0 true).token
    if start.rest = [] then some .missing
    else
      match readDocument start with
      | none => none
      | some (node, after) =>
        let after := after.token
        if !endsLine after then none
        else if after.rest = [] then some node
        else if after.column = 0 && markerAhead '.' after.rest then
          if (skipEnds after.rest.length after).rest = [] then some node else none
        else none

end LibraryCalls.Yaml
