import LibraryCalls.Call.Parse
import LibraryCalls.Proofs.Call.Sequence
import LibraryCalls.Proofs.Call.Walk

/-!
# What is left of a text

A scan looks at nothing in front of the position it begins at.  So the rest of a text may be scanned
on its own, with its positions told of the whole text afterwards, and the arguments of a call are
those that some scans in a row have found and those of the text they have left.

Positions are all that a scan takes from the text in front of it, and they are only added to: the
run that begins `k` characters later reports every position `k` later and is the same otherwise.
Therefore a scan commutes with dropping the text in front, and a walk leaves behind a text that can
be read without knowing how it came about.

A fault in the rest has the whole text as its source once it is told of the whole, so that the
source is part of what is translated.

* `Scanned.ahead`, `SyntaxError.within`, `toldOf`: what was found in the rest of a text, told of the
  whole;
* `scan_drop`: a scan from a position is a scan of the rest;
* `Walk.scanFrom_eq`, `scanAll_of_walk`: after any number of scans, the others are those of the
  rest;
* `remainder_alone`: the three for one scan, for two texts with the same rest, and for a call.
-/

namespace LibraryCalls

/-- An argument found in the rest of a text from `offset` on: in the whole text, the next one is
scanned from that much further on. -/
def Scanned.ahead (offset : Nat) (r : Scanned) : Scanned :=
  ⟨r.argument, r.resume + offset⟩

/-- A fault met in the rest of a text from `offset` on, as a fault of the whole text. -/
def Call.SyntaxError.within (source : List Char) (offset : Nat) (e : Call.SyntaxError) :
    Call.SyntaxError :=
  ⟨e.char, e.position + offset, String.ofList source⟩

namespace Argument

open Call

variable {terminators source : List Char}

/-- What a scan of the rest of a text from `offset` on has found, told of the whole text.  The
argument, or that there is none, or the offending character stays the same. -/
def toldOf (source : List Char) (offset : Nat) :
    Except SyntaxError (Option Scanned) → Except SyntaxError (Option Scanned)
  | .error e => .error (e.within source offset)
  | .ok found => .ok (found.map (Scanned.ahead offset))

/-- **A scan from a position is a scan of the rest.** -/
theorem scan_drop (terminators source : List Char) (start : Nat) :
    scan terminators source start
      = toldOf source start (scan terminators (source.drop start) 0) := by
  rw [scan_shift]
  rcases scan terminators (source.drop start) 0 with e | found
  · rfl
  · cases found <;> rfl

/-- What stands in front of a position has no part in what is found from there on. -/
theorem scan_append (terminators before rest : List Char) :
    scan terminators (before ++ rest) before.length
      = toldOf (before ++ rest) before.length (scan terminators rest 0) := by
  rw [scan_drop, List.drop_left]

/-! ### The arguments that are left -/

/-- **After a walk**, the scans still to come are those from where it stops. -/
theorem Walk.scanFrom_eq {start stop : Nat} {scans : List Scanned}
    (h : Walk terminators source start scans stop) :
    scanFrom terminators source start
      = (scans ++ (scanFrom terminators source stop).1,
          (scanFrom terminators source stop).2) := by
  induction h with
  | stay start => rfl
  | go hscan _ ih =>
    rw [Argument.scanFrom_eq, hscan]
    simp only [ih, List.cons_append]

/-- **All arguments** are those of a walk and those of the text it has left, read on its own. -/
theorem scanAll_of_walk {stop : Nat} {scans : List Scanned}
    (h : Walk terminators source 0 scans stop) :
    scanAll terminators source =
      match scanAll terminators (source.drop stop) with
      | .ok rest => .ok (scans.map (·.argument) ++ rest)
      | .error e => .error (e.within source stop) := by
  rw [scanAll, h.scanFrom_eq, scanFrom_shift source stop, scanAll]
  rcases scanFrom terminators (source.drop stop) 0 with ⟨rest, fault?⟩
  cases fault? with
  | none => simp [Function.comp_def]
  | some e => rfl

end Argument

namespace Call

open Argument

/-- A call has the arguments of a walk, and behind them those that are read from the rest of its
text alone. -/
theorem parse_of_walk {b : Brackets} {text : String} {name source : List Char}
    (hcut : cut b text.toList = (name, some source)) {stop : Nat} {scans : List Scanned}
    (h : Walk b.terminators source 0 scans stop) :
    parse b text =
      match scanAll b.terminators (source.drop stop) with
      | .ok rest => .ok ⟨String.ofList name, scans.map (·.argument) ++ rest⟩
      | .error e => .error (e.within source stop) := by
  rw [parse, hcut]
  simp only [scanAll_of_walk h]
  cases scanAll b.terminators (source.drop stop) <;> rfl

/-- **The rest of a text is read on its own.**  A scan from a position finds what a scan of the rest
from there on finds, told of the whole text.  Two texts with the same rest therefore differ only in
how far on it stands.  And a call has no argument if there is none at the beginning of the text
between its brackets; otherwise it has the first one and those that are read from the rest behind it
alone; and likewise behind any number of scans. -/
theorem remainder_alone :
    (∀ (terminators source : List Char) (start : Nat),
      scan terminators source start
        = toldOf source start (scan terminators (source.drop start) 0)) ∧
    (∀ terminators before before' rest : List Char, ∃ found,
      scan terminators (before ++ rest) before.length
          = toldOf (before ++ rest) before.length found ∧
        scan terminators (before' ++ rest) before'.length
          = toldOf (before' ++ rest) before'.length found) ∧
    ∀ (b : Brackets) (text : String) (name source : List Char),
      cut b text.toList = (name, some source) →
      (parse b text =
        match scan b.terminators source 0 with
        | .error e => .error e
        | .ok none => .ok ⟨String.ofList name, []⟩
        | .ok (some r) =>
          match scanAll b.terminators (source.drop r.resume) with
          | .ok rest => .ok ⟨String.ofList name, r.argument :: rest⟩
          | .error e => .error (e.within source r.resume)) ∧
      ∀ scans stop, Walk b.terminators source 0 scans stop →
        parse b text =
          match scanAll b.terminators (source.drop stop) with
          | .ok rest => .ok ⟨String.ofList name, scans.map (·.argument) ++ rest⟩
          | .error e => .error (e.within source stop) := by
  refine ⟨scan_drop, fun terminators before before' rest => ?_, ?_⟩
  · exact ⟨scan terminators rest 0, scan_append terminators before rest,
      scan_append terminators before' rest⟩
  · intro b text name source hcut
    refine ⟨?_, fun scans stop => parse_of_walk hcut⟩
    rcases hscan : scan b.terminators source 0 with e | found
    · rw [parse, hcut]
      simp only [scanAll, Argument.scanFrom_eq, hscan]
      rfl
    · cases found with
      | none =>
        rw [parse, hcut]
        simp only [scanAll_of_none hscan]
        rfl
      | some r => exact parse_of_walk hcut (.go hscan (.stay r.resume))

/-- Two arguments have been read, and the third one is read from the rest alone. -/
theorem remainder_alone_third :
    cut .round "lib(a=1, \"b, c\" , d)".toList = ("lib".toList, some "a=1, \"b, c\" , d".toList) ∧
      Walk Brackets.round.terminators "a=1, \"b, c\" , d".toList 0
        [⟨⟨"a", "1"⟩, 4⟩, ⟨⟨"", "b, c"⟩, 13⟩] 13 ∧
      scanAll Brackets.round.terminators " d".toList = .ok [⟨"", "d"⟩] ∧
      parse .round "lib(a=1, \"b, c\" , d)" =
        .ok ⟨"lib", [⟨"a", "1"⟩, ⟨"", "b, c"⟩, ⟨"", "d"⟩]⟩ := by
  have hcut : cut .round "lib(a=1, \"b, c\" , d)".toList
      = ("lib".toList, some "a=1, \"b, c\" , d".toList) := rfl
  have hfirst : scan Brackets.round.terminators "a=1, \"b, c\" , d".toList 0
      = .ok (some ⟨⟨"a", "1"⟩, 4⟩) := rfl
  have hsecond : scan Brackets.round.terminators "a=1, \"b, c\" , d".toList 4
      = .ok (some ⟨⟨"", "b, c"⟩, 13⟩) := rfl
  have hwalk := Walk.go hfirst (.go hsecond (.stay 13))
  have hrest : scanAll Brackets.round.terminators " d".toList = .ok [⟨"", "d"⟩] :=
    scanAll_eq_cons_iff.2 ⟨2, rfl, scanAll_of_none rfl⟩
  have hparse := (remainder_alone.2.2 .round _ _ _ hcut).2 _ _ hwalk
  have hdrop : "a=1, \"b, c\" , d".toList.drop 13 = " d".toList := rfl
  rw [hdrop, hrest] at hparse
  exact ⟨hcut, hwalk, hrest, hparse⟩

end Call

end LibraryCalls
