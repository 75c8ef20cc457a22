import LibraryCalls.Call.Scan
import LibraryCalls.Proofs.Call.Machine

/-!
# Arguments one after another

`scanFrom` walks through one text by positions.  Here the walk is brought to a recursion on the
text that is left: what one scan gives, and what the scans after it give on the rest.

A scan gives the argument and where it left off; in terms of the text that is left this is a run of
the machine behind the label, if there is an equals sign, and from the beginning otherwise.  The
walk by positions and the recursion on the rest give the same arguments, which is an induction on
the length of what is left.

From then on no positions are needed except where faults are located.  Every argument that was read
is clean; this is the invariant of the recursion.

* `scan_eq_some_iff`, `scan_eq_none_iff`: what one scan gives, in terms of a run of the machine;
* `scan_shift`, `scanFrom_shift`: a scan from a position is a scan of the text from there on;
* `scanAll_eq_nil_iff`, `scanAll_eq_cons_iff`: all arguments of a text are its first argument and
  all arguments of the rest;
* `clean_of_scanAll`: neither a name nor a value that was read carries outer blanks, and no name
  holds `=`.
-/

namespace LibraryCalls

namespace Argument

open Text Call

variable {terminators : List Char}

/-! ### One scan -/

theorem split_of_equals {before : List Char} (h : '=' ∉ before) (after : List Char) :
    split (before ++ '=' :: after) 0 = (some (trim before), before.length + 1, after) := by
  rw [split, List.drop_zero, cutFirst_eq_some_iff.2 ⟨rfl, h⟩]
  simp only [Nat.zero_add]

theorem split_of_not_mem {cs : List Char} (h : '=' ∉ cs) : split cs 0 = (none, 0, cs) := by
  rw [split, List.drop_zero, cutFirst_eq_none_iff.2 h]

/-- An argument with an `=` is named, and its value begins after the first one. -/
theorem scan_of_equals {before after kept : List Char} {resume : Nat} (h : '=' ∉ before)
    (hv : scanValue terminators .lead (before.length + 1) after = .ok (kept, resume)) :
    scan terminators (before ++ '=' :: after) 0
      = .ok (some ⟨⟨String.ofList (trim before), String.ofList (trim kept)⟩, resume⟩) := by
  rw [scan, split_of_equals h]
  simp only [hv, Option.isNone_some, Bool.false_eq_true, false_and, if_false, Option.getD_some]

/-- An argument without `=` is positional, and there is none when its value is empty. -/
theorem scan_of_not_mem {cs kept : List Char} {resume : Nat} (h : '=' ∉ cs)
    (hv : scanValue terminators .lead 0 cs = .ok (kept, resume)) :
    scan terminators cs 0
      = .ok (if trim kept = [] then none else some ⟨⟨"", String.ofList (trim kept)⟩, resume⟩) := by
  rw [scan, split_of_not_mem h]
  simp only [hv, Option.isNone_none, true_and, Option.getD_none]
  split_ifs <;> rfl

theorem equals_cases (cs : List Char) :
    '=' ∉ cs ∨ ∃ before after, cs = before ++ '=' :: after ∧ '=' ∉ before := by
  cases h : cutFirst '=' cs with
  | none => exact .inl (cutFirst_eq_none_iff.1 h)
  | some p => exact .inr ⟨p.1, p.2, cutFirst_eq_some_iff.1 h⟩

theorem scan_error_of_equals {before after : List Char} {e : Culprit} (h : '=' ∉ before)
    (hv : scanValue terminators .lead (before.length + 1) after = .error e) :
    scan terminators (before ++ '=' :: after) 0
      = .error ⟨e.char, e.position, String.ofList (before ++ '=' :: after)⟩ := by
  rw [scan, split_of_equals h]
  simp only [hv]

theorem scan_error_of_not_mem {cs : List Char} {e : Culprit} (h : '=' ∉ cs)
    (hv : scanValue terminators .lead 0 cs = .error e) :
    scan terminators cs 0 = .error ⟨e.char, e.position, String.ofList cs⟩ := by
  rw [scan, split_of_not_mem h]
  simp only [hv]

/-- **What a scan that finds an argument has read.** -/
theorem scan_eq_some_iff {cs : List Char} {r : Scanned} :
    scan terminators cs 0 = .ok (some r) ↔
      (∃ before after kept, cs = before ++ '=' :: after ∧ '=' ∉ before ∧
        scanValue terminators .lead (before.length + 1) after = .ok (kept, r.resume) ∧
        r.argument = ⟨String.ofList (trim before), String.ofList (trim kept)⟩) ∨
      ('=' ∉ cs ∧ ∃ kept, scanValue terminators .lead 0 cs = .ok (kept, r.resume) ∧
        trim kept ≠ [] ∧ r.argument = ⟨"", String.ofList (trim kept)⟩) := by
  constructor
  · intro h
    rcases equals_cases cs with hcs | ⟨before, after, rfl, hb⟩
    · right
      cases hv : scanValue terminators .lead 0 cs with
      | error e => simp [scan_error_of_not_mem hcs hv] at h
      | ok p =>
        obtain ⟨kept, resume⟩ := p
        rw [scan_of_not_mem hcs hv] at h
        by_cases hk : trim kept = []
        · simp [hk] at h
        · obtain rfl : ⟨⟨"", String.ofList (trim kept)⟩, resume⟩ = r := by simpa [hk] using h
          exact ⟨hcs, kept, rfl, hk, rfl⟩
    · left
      cases hv : scanValue terminators .lead (before.length + 1) after with
      | error e => simp [scan_error_of_equals hb hv] at h
      | ok p =>
        obtain ⟨kept, resume⟩ := p
        rw [scan_of_equals hb hv] at h
        obtain rfl := Option.some.inj (Except.ok.inj h)
        exact ⟨before, after, kept, rfl, hb, hv, rfl⟩
  · obtain ⟨argument, resume⟩ := r
    rintro (⟨before, after, kept, rfl, hb, hv, rfl⟩ | ⟨hcs, kept, hv, hk, rfl⟩)
    · exact scan_of_equals hb hv
    · rw [scan_of_not_mem hcs hv, if_neg hk]

/-- **What a scan that finds no argument has read**: blanks kept, and no `=` anywhere. -/
theorem scan_eq_none_iff {cs : List Char} :
    scan terminators cs 0 = .ok none ↔
      '=' ∉ cs ∧ ∃ kept resume, scanValue terminators .lead 0 cs = .ok (kept, resume) ∧
        trim kept = [] := by
  constructor
  · intro h
    rcases equals_cases cs with hcs | ⟨before, after, rfl, hb⟩
    · cases hv : scanValue terminators .lead 0 cs with
      | error e => simp [scan_error_of_not_mem hcs hv] at h
      | ok p =>
        obtain ⟨kept, resume⟩ := p
        rw [scan_of_not_mem hcs hv] at h
        by_cases hk : trim kept = []
        · exact ⟨hcs, kept, resume, rfl, hk⟩
        · simp [hk] at h
    · cases hv : scanValue terminators .lead (before.length + 1) after with
      | error e => simp [scan_error_of_equals hb hv] at h
      | ok p =>
        obtain ⟨kept, resume⟩ := p
        simp [scan_of_equals hb hv] at h
  · rintro ⟨hcs, kept, resume, hv, hk⟩
    rw [scan_of_not_mem hcs hv, if_pos hk]

/-! ### Scanning from a position -/

theorem split_shift (source : List Char) (start : Nat) :
    split source start =
      ((split (source.drop start) 0).1, (split (source.drop start) 0).2.1 + start,
        (split (source.drop start) 0).2.2) := by
  rcases equals_cases (source.drop start) with h | ⟨before, after, hd, hb⟩
  · rw [split_of_not_mem h, split, cutFirst_eq_none_iff.2 h]
    simp
  · rw [hd, split_of_equals hb, split, hd, cutFirst_eq_some_iff.2 ⟨rfl, hb⟩]
    simp only [Prod.mk.injEq, and_true, true_and]
    omega

/-- A scan from `start` on is a scan of the text from there on, with its positions moved. -/
theorem scan_shift (source : List Char) (start : Nat) :
    scan terminators source start =
      match scan terminators (source.drop start) 0 with
      | .error e => .error ⟨e.char, e.position + start, String.ofList source⟩
      | .ok none => .ok none
      | .ok (some r) => .ok (some ⟨r.argument, r.resume + start⟩) := by
  rcases hs : split (source.drop start) 0 with ⟨name?, pos, rest⟩
  rw [scan, scan, split_shift, hs]
  simp only [scanValue_add]
  cases scanValue terminators .lead pos rest with
  | error e => rfl
  | ok p =>
    simp only
    split_ifs <;> rfl

theorem scanFrom_eq (source : List Char) (start : Nat) :
    scanFrom terminators source start =
      match scan terminators source start with
      | .error e => ([], some e)
      | .ok none => ([], none)
      | .ok (some r) =>
        (r :: (scanFrom terminators source r.resume).1,
          (scanFrom terminators source r.resume).2) := by
  rw [scanFrom]
  split <;> rename_i h <;> simp only [h]

/-- **Scanning on from a position** gives the arguments of the text from there on, one by one. -/
theorem scanFrom_shift (source : List Char) (start : Nat) :
    scanFrom terminators source start =
      ((scanFrom terminators (source.drop start) 0).1.map
          fun r => ⟨r.argument, r.resume + start⟩,
        (scanFrom terminators (source.drop start) 0).2.map
          fun e => ⟨e.char, e.position + start, String.ofList source⟩) := by
  -- by induction on what is left of the text; both walks take one step and go on
  induction hn : source.length - start using Nat.strongRecOn generalizing source start with
  | ind n ih =>
    rw [scanFrom_eq source start, scanFrom_eq (source.drop start) 0, scan_shift source start]
    cases hs : scan terminators (source.drop start) 0 with
    | error e => rfl
    | ok found =>
      cases found with
      | none => rfl
      | some r =>
        have hb := scan_resume_bounds hs
        rw [List.length_drop] at hb
        simp only
        rw [ih (source.length - (r.resume + start)) (by omega) source (r.resume + start) rfl,
          ih (source.length - start - r.resume) (by omega) (source.drop start) r.resume
            (by rw [List.length_drop]),
          List.drop_drop, Nat.add_comm start r.resume]
        simp only [List.map_cons, List.map_map, Option.map_map]
        congr 3
        · funext q
          simp only [Function.comp, Scanned.mk.injEq, true_and]
          omega
        · funext e
          simp only [Function.comp, Call.SyntaxError.mk.injEq, true_and, and_true]
          omega

/-! ### All arguments of a text -/

theorem scanAll_of_none {cs : List Char} (h : scan terminators cs 0 = .ok none) :
    scanAll terminators cs = .ok [] := by
  rw [scanAll, scanFrom_eq, h]
  rfl

theorem scanAll_of_some {cs : List Char} {r : Scanned}
    (h : scan terminators cs 0 = .ok (some r)) :
    scanAll terminators cs =
      match scanAll terminators (cs.drop r.resume) with
      | .ok rest => .ok (r.argument :: rest)
      | .error e => .error ⟨e.char, e.position + r.resume, String.ofList cs⟩ := by
  rw [scanAll, scanFrom_eq, h, scanAll]
  simp only [scanFrom_shift cs r.resume]
  rcases scanFrom terminators (cs.drop r.resume) 0 with ⟨scanned, fault⟩
  cases fault <;> simp [Function.comp_def]

theorem scanAll_eq_nil_iff {cs : List Char} :
    scanAll terminators cs = .ok [] ↔ scan terminators cs 0 = .ok none := by
  constructor
  · intro h
    cases hs : scan terminators cs 0 with
    | error e =>
      rw [scanAll, scanFrom_eq, hs] at h
      simp at h
    | ok found =>
      cases found with
      | none => rfl
      | some r =>
        rw [scanAll_of_some hs] at h
        cases hrest : scanAll terminators (cs.drop r.resume) <;> simp [hrest] at h
  · exact scanAll_of_none

/-- **The first argument and the rest.** -/
theorem scanAll_eq_cons_iff {cs : List Char} {a : Argument} {args : List Argument} :
    scanAll terminators cs = .ok (a :: args) ↔
      ∃ resume, scan terminators cs 0 = .ok (some ⟨a, resume⟩) ∧
        scanAll terminators (cs.drop resume) = .ok args := by
  constructor
  · intro h
    cases hs : scan terminators cs 0 with
    | error e =>
      rw [scanAll, scanFrom_eq, hs] at h
      simp at h
    | ok found =>
      cases found with
      | none =>
        rw [scanAll_of_none hs] at h
        simp at h
      | some r =>
        rw [scanAll_of_some hs] at h
        cases hrest : scanAll terminators (cs.drop r.resume) with
        | error e => simp [hrest] at h
        | ok rest =>
          simp only [hrest, Except.ok.injEq, List.cons.injEq] at h
          obtain ⟨rfl, rfl⟩ := h
          exact ⟨r.resume, rfl, hrest⟩
  · rintro ⟨resume, hs, hrest⟩
    rw [scanAll_of_some hs, hrest]

/-! ### What has been read -/

/-- What every argument that was read is like. -/
structure Clean (a : Argument) : Prop where
  name_trimmed : Trimmed a.name.toList
  name_no_equals : '=' ∉ a.name.toList
  value_trimmed : Trimmed a.value.toList

theorem clean_of_scan {cs : List Char} {r : Scanned}
    (h : scan terminators cs 0 = .ok (some r)) : r.argument.Clean := by
  rcases scan_eq_some_iff.1 h with ⟨before, after, kept, _, hb, _, ha⟩ | ⟨_, kept, _, _, ha⟩
  · rw [ha]
    constructor
    · simpa using trimmed_trim before
    · simpa using fun hm => hb (mem_of_mem_trim hm)
    · simpa using trimmed_trim kept
  · rw [ha]
    constructor
    · have hnil : Trimmed [] := trimmed_of_not_blank (by simp)
      simpa using hnil
    · simp
    · simpa using trimmed_trim kept

/-- **Every argument that was read is clean.** -/
theorem clean_of_scanAll {cs : List Char} {args : List Argument}
    (h : scanAll terminators cs = .ok args) : ∀ a ∈ args, a.Clean := by
  induction args generalizing cs with
  | nil => simp
  | cons a args ih =>
    obtain ⟨resume, hs, hrest⟩ := scanAll_eq_cons_iff.1 h
    intro x hx
    rcases List.mem_cons.1 hx with rfl | hx
    · exact clean_of_scan hs
    · exact ih hrest x hx

end Argument

end LibraryCalls
