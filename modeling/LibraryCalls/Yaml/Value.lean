import LibraryCalls.Yaml.Scalar

/-!
# Documents with values

Not every document that can be read has a value: a key has to be a scalar, a plain `=` or `<<` is
none except as a key, and a number or a time has to be one.  The key `<<` stands for the entries of
other mappings.

Merging comes first.  The entries that a merging key stands for are put before the other entries of
its mapping, and so an entry that is written there counts more than a merged one of the same key; of
several mappings to be merged the first counts most.  Merged mappings are themselves merged before.

Of several faults the one that stands least deep is reported, and of these the first in the text.
That is the order in which a document is put together from the outside, level by level.

* `Node.merged?`: a document with the entries of other mappings in their place;
* `Node.value?`: a document that has a value, or the first fault in it;
* `Node.faults`, `leastDeep?`: all faults with their depth, and the one that is reported.
-/

namespace LibraryCalls.Yaml

/-- Why a document has no value. -/
inductive ValueFault where
  | malformed
  | scalar (fault : ScalarFault)
  deriving DecidableEq, Repr

/-- Whether a key stands for the entries of other mappings. -/
def Node.isMerge : Node → Bool
  | .plain cs => cs = ['<', '<']
  | _ => false

def Node.entries? : Node → Option (List (Node × Node))
  | .mapping entries => some entries
  | _ => none

/-- The entries that the value of a merging key stands for.  Of several mappings the first counts
most, so it comes last. -/
def Node.mergedEntries? : Node → Option (List (Node × Node))
  | .mapping entries => some entries
  | .list items => (items.mapM Node.entries?).map fun rows => rows.reverse.flatten
  | _ => none

mutual

/-- A document with the entries of other mappings in their place. -/
def Node.merged? : Node → Option Node
  | .plain cs => some (.plain cs)
  | .quoted cs => some (.quoted cs)
  | .list items => (mergedItems? items).map .list
  | .mapping entries => (mergedEntries? entries).map fun e => .mapping (e.1 ++ e.2)

/-- The items of a list with the entries of other mappings in their place. -/
def mergedItems? : List Node → Option (List Node)
  | [] => some []
  | n :: ns => do
    let n ← n.merged?
    let ns ← mergedItems? ns
    some (n :: ns)

/-- The entries that merging keys stand for, and the other entries. -/
def mergedEntries? : List (Node × Node) → Option (List (Node × Node) × List (Node × Node))
  | [] => some ([], [])
  | (k, v) :: es => do
    let v ← v.merged?
    let (merged, others) ← mergedEntries? es
    if k.isMerge then
      let entries ← v.mergedEntries?
      some (entries ++ merged, others)
    else
      let k ← k.merged?
      some (merged, (k, v) :: others)

end

def plainFault? (cs : List Char) : Option ValueFault :=
  if cs = ['='] ∨ cs = ['<', '<'] then some .malformed else (Scalar.fault? cs).map .scalar

mutual

/-- The faults in a document, each with how deep it stands.  What stands in a list or a mapping is
one step deeper than it. -/
def Node.faults (depth : Nat) : Node → List (Nat × ValueFault)
  | .plain cs => ((plainFault? cs).map fun f => (depth, f)).toList
  | .quoted _ => []
  | .list items => itemFaults (depth + 1) items
  | .mapping entries => entryFaults (depth + 1) entries

def itemFaults (depth : Nat) : List Node → List (Nat × ValueFault)
  | [] => []
  | n :: ns => n.faults depth ++ itemFaults depth ns

def entryFaults (depth : Nat) : List (Node × Node) → List (Nat × ValueFault)
  | [] => []
  | (k, v) :: es =>
    (match k with
      | .plain cs => ((Scalar.fault? cs).map fun f => (depth, ValueFault.scalar f)).toList
      | .quoted _ => []
      | _ => [(depth, .malformed)]) ++ v.faults depth ++ entryFaults depth es

end

/-- The first of the faults that stand least deep. -/
def leastDeep? : List (Nat × ValueFault) → Option (Nat × ValueFault)
  | [] => none
  | f :: fs =>
    match leastDeep? fs with
    | some g => if g.1 < f.1 then some g else some f
    | none => some f

def Node.value? (n : Node) : Except ValueFault Node :=
  match n.merged? with
  | none => .error .malformed
  | some n =>
    match leastDeep? (n.faults 0) with
    | some f => .error f.2
    | none => .ok n

end LibraryCalls.Yaml
