import LibraryCalls.Assoc

/-!
# Placeholders

A placeholder is a dollar sign and a name in braces, the name one or more ASCII letters, digits,
underscores, dots and dashes.  Substitution goes through a text once, from left to right; what is
put in is never looked at again.

A text is cut into parts first, and every question is asked of the parts: the names are those of the
parts that are placeholders, and the text with its placeholders replaced is made of the parts with
values in the place of some.  So what is put in cannot become a placeholder, and a dollar sign that
begins none is a character like any other.

The values are a map by names, and a name may be given a value that no placeholder asks for.  The
strict policy reports all names without a value, each once, together with the text that holds them.

* `pieces`: a text cut into its placeholders and the characters between them;
* `names`: the names of its placeholders, each once, in the order of their first occurrence;
* `substitute`: the text with its placeholders replaced.  A placeholder without a value stays as it
  is under the lenient policy and is an error under the strict one;
* `atHead?`: the placeholder at the head of a text;
* `Policy`, `Unresolved`: the two policies, and what the strict one reports;
* `fill`: the text with every placeholder replaced that has a value.
-/

namespace LibraryCalls

/-- What to do with a placeholder that has no value. -/
inductive Policy where
  | strict
  | lenient
  deriving DecidableEq, Repr

namespace Placeholder

def isNameChar (c : Char) : Bool :=
  ('A' ≤ c && c ≤ 'Z') || ('a' ≤ c && c ≤ 'z') || ('0' ≤ c && c ≤ '9')
    || c = '_' || c = '.' || c = '-'

/-- The name of the placeholder at the head of a text, and the text after it. -/
def atHead? : List Char → Option (List Char × List Char)
  | '$' :: '{' :: rest =>
    match rest.dropWhile isNameChar with
    | '}' :: after =>
      if rest.takeWhile isNameChar = [] then none
      else some (rest.takeWhile isNameChar, after)
    | _ => none
  | _ => none

/-- What follows a placeholder is shorter than the text it stands in. -/
theorem length_lt_of_atHead? {cs name after : List Char} (h : atHead? cs = some (name, after)) :
    after.length < cs.length := by
  unfold atHead? at h
  split at h
  · rename_i rest
    split at h
    · rename_i a hd
      have hle : (rest.dropWhile isNameChar).length ≤ rest.length :=
        (List.dropWhile_sublist _).length_le
      rw [hd] at hle
      simp only [List.length_cons] at hle ⊢
      split at h
      · simp at h
      · simp only [Option.some.injEq, Prod.mk.injEq] at h
        obtain ⟨_, rfl⟩ := h
        omega
    · simp at h
  · simp at h

/-- A part of a text: a character for itself, or a placeholder. -/
inductive Piece where
  | char (c : Char)
  | hole (name : String)
  deriving DecidableEq, Repr

/-- The parts of a text, from left to right. -/
def pieces : List Char → List Piece
  | [] => []
  | c :: cs =>
    match _h : atHead? (c :: cs) with
    | some (name, after) => .hole (String.ofList name) :: pieces after
    | none => .char c :: pieces cs
termination_by cs => cs.length
decreasing_by
  · exact length_lt_of_atHead? _h
  · exact Nat.lt_succ_self cs.length

def written (name : String) : List Char :=
  '$' :: '{' :: name.toList ++ ['}']

def Piece.name? : Piece → Option String
  | .char _ => none
  | .hole name => some name

/-- Each element once, where it first occurs. -/
def firstOccurrences {α : Type} [DecidableEq α] : List α → List α
  | [] => []
  | x :: xs => x :: (firstOccurrences xs).filter (· ≠ x)

/-- The names of a text's placeholders, each once, in the order of their first occurrence. -/
def names (text : String) : List String :=
  firstOccurrences ((pieces text.toList).filterMap Piece.name?)

/-- A part with its value put in, if it is a placeholder that has one. -/
def Piece.fill (mapping : Assoc String String) : Piece → List Char
  | .char c => [c]
  | .hole name =>
    match mapping.get? name with
    | some value => value.toList
    | none => written name

/-- The text with every placeholder that has a value replaced by it. -/
def fill (mapping : Assoc String String) (text : String) : String :=
  String.ofList ((pieces text.toList).flatMap (Piece.fill mapping))

/-- Placeholders without a value: their names, each once in the order of their first occurrence, and
the text that holds them. -/
structure Unresolved where
  missing : List String
  text : String
  deriving DecidableEq, Repr

/-- Names in quotes, separated by commas, in square brackets. -/
def quotedList (names : List String) : String :=
  "[" ++ ", ".intercalate (names.map fun n => "'" ++ n ++ "'") ++ "]"

def Unresolved.message (e : Unresolved) : String :=
  s!"Unresolved variables {quotedList e.missing} in '{e.text}'"

/-- The names of a text's placeholders that have no value. -/
def missing (mapping : Assoc String String) (text : String) : List String :=
  (names text).filter fun n => !mapping.contains n

/-- The text with its placeholders replaced. -/
def substitute (policy : Policy) (mapping : Assoc String String) (text : String) :
    Except Unresolved String :=
  match policy with
  | .lenient => .ok (fill mapping text)
  | .strict =>
    if missing mapping text = [] then .ok (fill mapping text)
    else .error ⟨missing mapping text, text⟩

end Placeholder

end LibraryCalls
