import LibraryCalls.Text.Blank
import LibraryCalls.Text.Cut
import LibraryCalls.Call.Basic

/-!
# Scanning one argument

An argument is `name=value` or a bare `value`.  The name is whatever stands before the first `=` of
the *remaining text*; the value is read by a machine with five modes, one character at a time, up
to a terminator or the end.

Positions are those of the whole text of the arguments, since a fault is reported by its position
there.  A scan from position `start` therefore drops that many characters first and counts on from
there; that this is the same as a scan of the rest on its own is proved in
`LibraryCalls.Proofs.Call.Remainder`.

A scan finds no argument when the value is empty and no equals sign stands before it.  That is also
how the run over all arguments ends: at the end of the text, or earlier, at a slot without a value.
The run over all arguments is by recursion on how much of the text is left, and the bound on where a
scan resumes is what makes it terminate.

* `Mode.act`: what each mode does with each character;
* `scanValue`: the machine's run, with the characters kept and the position to resume from;
* `Argument.scan`: one argument, `none` when no argument is left;
* `scan_resume_bounds`: a scan that finds an argument moves on and stays inside the text;
* `Argument.scanFrom`: arguments one after another, each scan resuming where the last one ended.
-/

namespace LibraryCalls

open Text

namespace Call

/-- Where the machine stands inside a value. -/
inductive Mode where
  /-- Nothing but blanks and backslashes so far. -/
  | lead
  /-- Inside a value without quotes. -/
  | bare
  /-- Inside quotes. -/
  | body
  /-- Inside quotes, just after a backslash. -/
  | escape
  /-- After a quote that has ended the value. -/
  | tail
  deriving DecidableEq, Repr

/-- What the machine does with a character. -/
inductive Action where
  | keep (next : Mode)
  | skip (next : Mode)
  | stop
  | reject
  deriving DecidableEq, Repr

/-- The table of the machine.  A quote opens only in `lead` and closes or is dropped elsewhere; a
backslash escapes only between quotes and is kept elsewhere; a terminator ends the value unless it
stands between quotes. -/
def Mode.act (terminators : List Char) (c : Char) : Mode → Action
  | .lead =>
    if c = '\\' then .keep .lead
    else if c = '"' then .skip .body
    else if c ∈ terminators then .stop
    else if isBlank c then .skip .lead
    else .keep .bare
  | .bare =>
    if c = '\\' then .keep .bare
    else if c = '"' then .skip .tail
    else if c ∈ terminators then .stop
    else .keep .bare
  | .body =>
    if c = '\\' then .skip .escape
    else if c = '"' then .skip .tail
    else .keep .body
  | .escape => .keep .body
  | .tail =>
    if c = '\\' then .keep .tail
    else if c = '"' then .skip .tail
    else if c ∈ terminators then .stop
    else if isBlank c then .skip .tail
    else .reject

/-- A character that may not follow a closing quote, and its position. -/
structure Culprit where
  char : Char
  position : Nat
  deriving DecidableEq, Repr

/-- Run the machine over the text from position `pos` on.  The result holds the characters kept and
the position just past the terminator, or the end of the text. -/
def scanValue (terminators : List Char) :
    Mode → Nat → List Char → Except Culprit (List Char × Nat)
  | _, pos, [] => .ok ([], pos)
  | mode, pos, c :: cs =>
    match mode.act terminators c with
    | .keep next => (scanValue terminators next (pos + 1) cs).map fun r => (c :: r.1, r.2)
    | .skip next => scanValue terminators next (pos + 1) cs
    | .stop => .ok ([], pos + 1)
    | .reject => .error ⟨c, pos⟩

/-- The machine moves past every character it keeps and never leaves the text. -/
theorem scanValue_resume_bounds {terminators : List Char} {mode : Mode} {pos : Nat}
    {cs kept : List Char} {resume : Nat}
    (h : scanValue terminators mode pos cs = .ok (kept, resume)) :
    pos + kept.length ≤ resume ∧ resume ≤ pos + cs.length := by
  induction cs generalizing mode pos kept with
  | nil =>
    simp only [scanValue, Except.ok.injEq, Prod.mk.injEq] at h
    obtain ⟨rfl, rfl⟩ := h
    simp
  | cons c cs ih =>
    simp only [scanValue] at h
    split at h
    · rename_i next _
      cases hr : scanValue terminators next (pos + 1) cs with
      | error e => simp [hr, Except.map] at h
      | ok r =>
        obtain ⟨rest, stop⟩ := r
        simp only [hr, Except.map, Except.ok.injEq, Prod.mk.injEq] at h
        obtain ⟨rfl, rfl⟩ := h
        have := ih hr
        simp only [List.length_cons]
        omega
    · have := ih h
      simp only [List.length_cons]
      omega
    · simp only [Except.ok.injEq, Prod.mk.injEq] at h
      obtain ⟨rfl, rfl⟩ := h
      simp
    · simp at h

end Call

/-- An argument and the position from which the next one is scanned. -/
structure Scanned where
  argument : Argument
  resume : Nat
  deriving DecidableEq, Repr

namespace Argument

open Call

/-- A text from position `start` on, split for scanning: the name of a named argument, the position
at which its value begins, and the text from there. -/
def split (source : List Char) (start : Nat) : Option (List Char) × Nat × List Char :=
  match cutFirst '=' (source.drop start) with
  | some (before, after) => (some (trim before), start + before.length + 1, after)
  | none => (none, start, source.drop start)

/-- One argument of `source` from position `start` on, or `none` when there is none left. -/
def scan (terminators source : List Char) (start : Nat) :
    Except SyntaxError (Option Scanned) :=
  let (name?, pos, rest) := split source start
  match scanValue terminators .lead pos rest with
  | .error e => .error ⟨e.char, e.position, String.ofList source⟩
  | .ok (kept, resume) =>
    let value := trim kept
    if name?.isNone ∧ value = [] then .ok none
    else .ok (some ⟨⟨String.ofList (name?.getD []), String.ofList value⟩, resume⟩)

/-- A scan that finds an argument has moved on, and has not left the text. -/
theorem scan_resume_bounds {terminators source : List Char} {start : Nat} {r : Scanned}
    (h : scan terminators source start = .ok (some r)) :
    start < r.resume ∧ r.resume ≤ source.length := by
  unfold scan split at h
  cases hc : cutFirst '=' (source.drop start) with
  | some p =>
    obtain ⟨before, after⟩ := p
    simp only [hc] at h
    have hlen := congrArg List.length (cutFirst_eq_some_iff.1 hc).1
    simp only [List.length_drop, List.length_append, List.length_cons] at hlen
    cases hv : scanValue terminators .lead (start + before.length + 1) after with
    | error e => simp [hv] at h
    | ok q =>
      obtain ⟨kept, resume⟩ := q
      have := scanValue_resume_bounds hv
      simp only [hv, Option.isNone_some, Bool.false_eq_true, false_and, if_false, Except.ok.injEq,
        Option.some.injEq] at h
      subst h
      simp only
      omega
  | none =>
    simp only [hc] at h
    cases hv : scanValue terminators .lead start (source.drop start) with
    | error e => simp [hv] at h
    | ok q =>
      obtain ⟨kept, resume⟩ := q
      have hb := scanValue_resume_bounds hv
      simp only [hv, Option.isNone_none, true_and] at h
      split at h
      · simp at h
      · rename_i hne
        have hk : kept ≠ [] := fun hk => hne (by rw [hk, trim_nil])
        have hpos := List.length_pos_iff.2 hk
        simp only [Except.ok.injEq, Option.some.injEq] at h
        subst h
        simp only [List.length_drop] at hb
        simp only
        omega

/-- Arguments from position `start` on, one after another, each with its resume position.  The run
ends when no argument is left or at a fault, which is then given too. -/
def scanFrom (terminators source : List Char) (start : Nat) :
    List Scanned × Option SyntaxError :=
  match h : scan terminators source start with
  | .error e => ([], some e)
  | .ok none => ([], none)
  | .ok (some r) =>
    have : source.length - r.resume < source.length - start := by
      have := scan_resume_bounds h
      omega
    let (rest, fault) := scanFrom terminators source r.resume
    (r :: rest, fault)
termination_by source.length - start

def scanAll (terminators source : List Char) : Except SyntaxError (List Argument) :=
  match scanFrom terminators source 0 with
  | (scanned, none) => .ok (scanned.map (·.argument))
  | (_, some e) => .error e

end Argument

end LibraryCalls
