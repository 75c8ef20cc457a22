import Mathlib.Data.List.Chain
import LibraryCalls.Call.Parse
import LibraryCalls.Proofs.Call.Sequence

/-!
# The walk through the arguments of a call

The arguments of a call are found by one scan after another, each from where the one before it
ended. Every scan that finds an argument moves on, so there are no more of them than the text has
characters.

A walk is defined by its single scans, without reference to a strategy or an end, so that statements
about all walks are statements about every beginning of the loop, too.  From a given position at
most one scan can be made, and hence a walk that cannot go on begins with every other one.

The stretches of text are half-open intervals of positions.  That they tile the text between the
ends of the walk says at once that no character is read twice and that none is passed over.

* `Walk`: some scans in a row, from one position to another;
* `intervals`, `Tiles`: the stretches of text that the scans of a walk have read;
* `Walk.bounds`, `Walk.tiles`: a walk moves on with each scan and leaves nothing out;
* `exists_walk_scanFrom`, `Walk.isPrefix`: there is one walk that cannot go on, and all others are
  its beginnings;
* `walk_progress`: how the walk through the arguments of a call ends.
-/

namespace LibraryCalls

namespace Argument

variable {terminators source : List Char}

/-! ### Walks -/

/-- Scans of a text from position `start` on, each from where the one before it ended, up to
position `stop`.  A walk may stop anywhere, also where another argument follows. -/
inductive Walk (terminators source : List Char) : Nat → List Scanned → Nat → Prop
  | stay (start : Nat) : Walk terminators source start [] start
  | go {start stop : Nat} {r : Scanned} {scans : List Scanned}
      (hscan : scan terminators source start = .ok (some r))
      (hrest : Walk terminators source r.resume scans stop) :
      Walk terminators source start (r :: scans) stop

/-- **A walk moves on with each scan**, and does not leave the text. -/
theorem Walk.bounds {start stop : Nat} {scans : List Scanned}
    (h : Walk terminators source start scans stop) (hstart : start ≤ source.length) :
    start + scans.length ≤ stop ∧ stop ≤ source.length := by
  induction h with
  | stay start => exact ⟨Nat.le_refl start, hstart⟩
  | go hscan _ ih =>
    obtain ⟨hmove, hinside⟩ := scan_resume_bounds hscan
    obtain ⟨hlength, hstop⟩ := ih hinside
    refine ⟨?_, hstop⟩
    rw [List.length_cons]
    omega

/-- **All scans of a text** are a walk, and where it stops a scan finds no argument or meets the
fault. -/
theorem exists_walk_scanFrom (terminators source : List Char) (start : Nat) :
    ∃ stop, Walk terminators source start (scanFrom terminators source start).1 stop ∧
      scan terminators source stop =
        match (scanFrom terminators source start).2 with
        | none => .ok none
        | some e => .error e := by
  fun_induction scanFrom terminators source start with
  | case1 start e h => exact ⟨start, .stay start, h⟩
  | case2 start h => exact ⟨start, .stay start, h⟩
  | case3 start r h _ rest fault hrest ih =>
    obtain ⟨stop, hwalk, hend⟩ := ih
    rw [hrest] at hwalk hend
    exact ⟨stop, .go h hwalk, hend⟩

/-- **Walks from one position** differ only in how far they go: one that cannot go on begins with
the scans of each other. -/
theorem Walk.isPrefix {start stop stop' : Nat} {scans scans' : List Scanned}
    (h : Walk terminators source start scans stop)
    (h' : Walk terminators source start scans' stop')
    (hend : ∀ r, scan terminators source stop' ≠ .ok (some r)) : scans <+: scans' := by
  induction h generalizing scans' with
  | stay start => exact List.nil_prefix
  | go hscan _ ih =>
    cases h' with
    | stay => exact absurd hscan (hend _)
    | go hscan' hrest' =>
      obtain rfl := Option.some.inj (Except.ok.inj (hscan.symm.trans hscan'))
      exact List.cons_prefix_cons.2 ⟨rfl, ih hrest'⟩

/-! ### What the scans of a walk have read -/

/-- The positions between which the scans of a walk have read, each with the one where it ended. -/
def intervals : Nat → List Scanned → List (Nat × Nat)
  | _, [] => []
  | start, r :: scans => (start, r.resume) :: intervals r.resume scans

def slice (source : List Char) (interval : Nat × Nat) : List Char :=
  (source.drop interval.1).take (interval.2 - interval.1)

theorem slice_append (source : List Char) {i j k : Nat} (hij : i ≤ j) (hjk : j ≤ k) :
    slice source (i, j) ++ slice source (j, k) = slice source (i, k) := by
  have hik : k - i = (j - i) + (k - j) := by omega
  have hj : j = i + (j - i) := by omega
  rw [slice, slice, slice]
  simp only
  rw [hik, List.take_add, List.drop_drop, ← hj]

/-- Intervals that cut the text between `start` and `stop` into pieces, one behind the other. -/
structure Tiles (source : List Char) (start : Nat) (intervals : List (Nat × Nat)) (stop : Nat) :
    Prop where
  not_empty : ∀ i ∈ intervals, start ≤ i.1 ∧ i.1 < i.2 ∧ i.2 ≤ stop
  disjoint : intervals.Pairwise fun i j => i.2 ≤ j.1
  adjoining : intervals.IsChain fun i j => i.2 = j.1
  covering : intervals.flatMap (slice source) = slice source (start, stop)

/-- **The scans of a walk** read the text between its two ends piece by piece. -/
theorem Walk.tiles {start stop : Nat} {scans : List Scanned}
    (h : Walk terminators source start scans stop) (hstart : start ≤ source.length) :
    Tiles source start (intervals start scans) stop := by
  induction h with
  | stay start =>
    refine ⟨by simp [intervals], by simp [intervals], by simp [intervals], ?_⟩
    simp [intervals, slice]
  | @go start stop r scans hscan hrest ih =>
    obtain ⟨hmove, hinside⟩ := scan_resume_bounds hscan
    have hstop := (hrest.bounds hinside).1
    have htiles := ih hinside
    rw [intervals]
    constructor
    · intro i hi
      rcases List.mem_cons.1 hi with rfl | hi
      · exact ⟨Nat.le_refl start, hmove, by simp only; omega⟩
      · have := htiles.not_empty i hi
        omega
    · refine List.pairwise_cons.2 ⟨fun i hi => (htiles.not_empty i hi).1, htiles.disjoint⟩
    · refine List.isChain_cons.2 ⟨fun i hi => ?_, htiles.adjoining⟩
      cases scans with
      | nil => simp [intervals] at hi
      | cons q scans =>
        obtain rfl : (r.resume, q.resume) = i := by simpa [intervals] using hi
        rfl
    · rw [List.flatMap_cons, htiles.covering]
      exact slice_append source (Nat.le_of_lt hmove) (by omega)

/-- A scan from the end of the text on finds nothing. -/
theorem scan_of_length_le {start : Nat} (h : source.length ≤ start) :
    scan terminators source start = .ok none := by
  rw [scan_shift, List.drop_eq_nil_of_le h]
  rfl

end Argument

/-! ### The walk through a call -/

namespace Call

open Argument

/-- The arguments of a call, or its fault, are what the scans of one walk have found, and what the
scan where that walk stops finds. -/
theorem exists_walk_of_cut {b : Brackets} {text : String} {name source : List Char}
    (hcut : cut b text.toList = (name, some source)) :
    ∃ scans stop, Walk b.terminators source 0 scans stop ∧
      ((scan b.terminators source stop = .ok none ∧
          parse b text = .ok ⟨String.ofList name, scans.map (·.argument)⟩) ∨
        ∃ e, scan b.terminators source stop = .error e ∧ parse b text = .error e) := by
  obtain ⟨stop, hwalk, hend⟩ := exists_walk_scanFrom b.terminators source 0
  refine ⟨_, stop, hwalk, ?_⟩
  rw [parse, hcut]
  simp only [scanAll]
  rcases hscans : scanFrom b.terminators source 0 with ⟨scans, fault?⟩
  rw [hscans] at hend
  cases fault? with
  | none => exact .inl ⟨hend, rfl⟩
  | some e => exact .inr ⟨e, hend, rfl⟩

/-- **The walk through the arguments of a call comes to an end.**  A scan that finds an argument has
moved on inside the text, and from the end of the text on there is none to find.  So no walk through
the arguments of a call makes more scans than there are characters between the brackets; its scans
read the text from the first character on, one piece behind the other; and one walk, which begins
with the scans of each other, stops where no argument is left or at the fault, and gives the call.
-/
theorem walk_progress :
    (∀ (terminators source : List Char) (start : Nat),
      (source.length ≤ start → scan terminators source start = .ok none) ∧
      ∀ r, scan terminators source start = .ok (some r) →
        start < r.resume ∧ r.resume ≤ source.length) ∧
    ∀ (b : Brackets) (text : String) (name source : List Char),
      cut b text.toList = (name, some source) →
      (∀ scans stop, Walk b.terminators source 0 scans stop →
        scans.length ≤ source.length ∧ Tiles source 0 (intervals 0 scans) stop) ∧
      ∃ scans stop, Walk b.terminators source 0 scans stop ∧
        (∀ scans' stop', Walk b.terminators source 0 scans' stop' → scans' <+: scans) ∧
        ((scan b.terminators source stop = .ok none ∧
            parse b text = .ok ⟨String.ofList name, scans.map (·.argument)⟩) ∨
          ∃ e, scan b.terminators source stop = .error e ∧ parse b text = .error e) := by
  refine ⟨fun terminators source start => ⟨scan_of_length_le, fun r => scan_resume_bounds⟩, ?_⟩
  intro b text name source hcut
  constructor
  · intro scans stop hwalk
    have hbounds := hwalk.bounds (Nat.zero_le _)
    exact ⟨by omega, hwalk.tiles (Nat.zero_le _)⟩
  · obtain ⟨scans, stop, hwalk, hend⟩ := exists_walk_of_cut hcut
    refine ⟨scans, stop, hwalk, fun scans' stop' hwalk' => hwalk'.isPrefix hwalk ?_, hend⟩
    intro r hr
    rcases hend with ⟨hnone, -⟩ | ⟨e, he, -⟩
    · simp [hnone] at hr
    · simp [he] at hr

/-- An argument without a value takes its place like any other. -/
theorem walk_progress_empty_value :
    cut .round "lib(a=, \"b\" )".toList = ("lib".toList, some "a=, \"b\" ".toList) ∧
      Walk Brackets.round.terminators "a=, \"b\" ".toList 0
        [⟨⟨"a", ""⟩, 3⟩, ⟨⟨"", "b"⟩, 8⟩] 8 ∧
      Tiles "a=, \"b\" ".toList 0 [(0, 3), (3, 8)] 8 := by
  have hcut : cut .round "lib(a=, \"b\" )".toList = ("lib".toList, some "a=, \"b\" ".toList) :=
    rfl
  have hfirst : scan Brackets.round.terminators "a=, \"b\" ".toList 0
      = .ok (some ⟨⟨"a", ""⟩, 3⟩) := rfl
  have hsecond : scan Brackets.round.terminators "a=, \"b\" ".toList 3
      = .ok (some ⟨⟨"", "b"⟩, 8⟩) := rfl
  have hwalk := Walk.go hfirst (.go hsecond (.stay 8))
  exact ⟨hcut, hwalk, ((walk_progress.2 .round _ _ _ hcut).1 _ _ hwalk).2⟩

end Call

end LibraryCalls
