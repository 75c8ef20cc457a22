import LibraryCalls.Proofs.Call.Extension
import LibraryCalls.Proofs.Call.Layout
import LibraryCalls.Proofs.Call.RoundTrip

/-!
# The calls that can be read

Some text is read as a call exactly when the name of the call is trimmed and holds no opening
bracket, and its arguments are clean.  In every such text the arguments that are read with an `=`
come first; from the first scan on that finds no `=`, all arguments are positional.

One half says what every argument list that was read is like; the other writes, for each list that
is like that, a text in which it is read.  The text is a layout with every name, even an empty one,
in front of an equals sign for the arguments of the first block, and with bare or quoted values for
the others.

No equals sign stands behind the first block, for the scans behind it would find it.  An argument
with an empty name may belong to either block, as it may have been read with an equals sign before
its value or without any, and so one list of arguments can be cut into blocks in more than one way.

* `Call.kept_subset_of_pass`: the machine keeps only characters of the text;
* `Argument.Readable`: the argument lists that can be read;
* `Argument.readable_of_scanAll`: the two blocks of the arguments in a text;
* `WrittenNamed.ofClean`: a clean argument, written with an `=`;
* `Call.exists_parse_iff`: the calls that can be read, and where their positional arguments begin.
-/

namespace LibraryCalls

open Text Call

/-! ### Characters that are kept -/

namespace Call

variable {terminators : List Char}

/-- Nothing is made up: the machine keeps only characters that stand in the text. -/
theorem kept_subset_of_pass {mode final : Mode} {p kept : List Char}
    (h : mode.pass terminators p = some (kept, final)) : kept ⊆ p := by
  induction p generalizing mode kept with
  | nil =>
    obtain ⟨rfl, -⟩ : [] = kept ∧ mode = final := by simpa [Mode.pass] using h
    exact List.nil_subset []
  | cons c p ih =>
    rw [Mode.pass] at h
    cases hact : mode.act terminators c with
    | keep next =>
      simp only [hact, Option.map_eq_some_iff] at h
      obtain ⟨⟨rest, m⟩, hrest, heq⟩ := h
      obtain ⟨rfl, rfl⟩ := Prod.mk.inj heq
      exact List.cons_subset_cons c (ih hrest)
    | skip next =>
      simp only [hact] at h
      exact List.subset_cons_of_subset c (ih h)
    | stop => simp [hact] at h
    | reject => simp [hact] at h

theorem kept_subset_of_scanValue {mode : Mode} {pos resume : Nat} {cs kept : List Char}
    (h : scanValue terminators mode pos cs = .ok (kept, resume)) : kept ⊆ cs := by
  obtain ⟨p, rest, mid, rfl, hpass, -, -⟩ := scanValue_eq_ok_iff.1 h
  exact List.subset_append_of_subset_left rest (kept_subset_of_pass hpass)

end Call

/-! ### The blocks of the arguments -/

namespace Argument

variable {terminators : List Char}

/-- Arguments that can be read: a block of clean ones, whose names may be empty, and behind it a
block of clean ones that are positional. -/
def Readable (args : List Argument) : Prop :=
  ∃ first second, args = first ++ second ∧ (∀ a ∈ first, a.Clean) ∧
    ∀ a ∈ second, a.Clean ∧ a.IsPositional

theorem Readable.clean {args : List Argument} (h : Readable args) : ∀ a ∈ args, a.Clean := by
  obtain ⟨first, second, rfl, hfirst, hsecond⟩ := h
  intro a ha
  rcases List.mem_append.1 ha with ha | ha
  · exact hfirst a ha
  · exact (hsecond a ha).1

theorem isPositional_of_scanAll {cs : List Char} {args : List Argument} (hno : '=' ∉ cs)
    (h : scanAll terminators cs = .ok args) : ∀ a ∈ args, a.IsPositional := by
  induction args generalizing cs with
  | nil => exact fun a ha => absurd ha List.not_mem_nil
  | cons a args ih =>
    obtain ⟨resume, hscan, hrest⟩ := scanAll_eq_cons_iff.1 h
    have hnoRest : '=' ∉ cs.drop resume := fun hm => hno (List.mem_of_mem_drop hm)
    intro x hx
    rcases List.mem_cons.1 hx with rfl | hx
    · rcases scan_eq_some_iff.1 hscan with ⟨before, after, kept, rfl, -⟩ | ⟨-, kept, hv, hk, rfl⟩
      · exact absurd (List.mem_append_right before List.mem_cons_self) hno
      · refine ⟨rfl, mt String.ofList_eq_empty_iff.1 hk, ?_⟩
        rw [String.toList_ofList]
        exact fun hm => hno (kept_subset_of_scanValue hv (mem_of_mem_trim hm))
    · exact ih hnoRest hrest x hx

/-- **The walk goes on in each of the texts before its scans.** -/
theorem scanAll_of_getElem?_remainders {cs rest : List Char} {args : List Argument} {i : Nat}
    (h : scanAll terminators cs = .ok args) (hi : (remainders terminators cs)[i]? = some rest) :
    scanAll terminators rest = .ok (args.drop i) := by
  induction args generalizing cs i with
  | nil =>
    rw [remainders_of_none (scanAll_eq_nil_iff.1 h)] at hi
    obtain rfl := List.mem_singleton.1 (List.mem_of_getElem? hi)
    rw [List.drop_nil]
    exact h
  | cons a args ih =>
    obtain ⟨resume, hscan, hrest⟩ := scanAll_eq_cons_iff.1 h
    rw [remainders_of_some hscan] at hi
    cases i with
    | zero =>
      obtain rfl : cs = rest := Option.some.inj hi
      exact h
    | succ i => exact ih hrest hi

/-- **The two blocks.**  The arguments that are read with an `=` come first. -/
theorem readable_of_scanAll {cs : List Char} {args : List Argument}
    (h : scanAll terminators cs = .ok args) : Readable args := by
  induction args generalizing cs with
  | nil => exact ⟨[], [], rfl, by simp, by simp⟩
  | cons a args ih =>
    have hclean := clean_of_scanAll h
    by_cases hequals : '=' ∈ cs
    · obtain ⟨resume, -, hrest⟩ := scanAll_eq_cons_iff.1 h
      obtain ⟨first, second, rfl, hfirst, hsecond⟩ := ih hrest
      refine ⟨a :: first, second, rfl, ?_, hsecond⟩
      intro x hx
      exact hclean x (List.mem_append_left second hx)
    · have hpositional := isPositional_of_scanAll hequals h
      exact ⟨[], a :: args, rfl, by simp, fun x hx => ⟨hclean x hx, hpositional x hx⟩⟩

end Argument

/-! ### A text for each call -/

namespace Call

open Argument

variable {b : Brackets}

/-- A clean argument, written with an `=` even when its name is empty. -/
def WrittenNamed.ofClean (b : Brackets) (a : Argument) (h : a.Clean) :
    WrittenNamed b.terminators where
  before := ⟨[], blank_nil⟩
  name := a.name.toList
  trimmed := h.name_trimmed
  no_equals := h.name_no_equals
  after := ⟨[], blank_nil⟩
  value := b.padded ⟨[], blank_nil⟩ a.value.toList
  separator := ⟨',', Brackets.mem_terminators.2 (.inr rfl)⟩

theorem WrittenNamed.argument_ofClean {a : Argument} (h : a.Clean) :
    (ofClean b a h).argument = a := by
  have hvalue : (b.padded ⟨[], blank_nil⟩ a.value.toList).value = a.value.toList :=
    (Brackets.value_padded _ _).trans (trim_of_trimmed h.value_trimmed)
  rw [argument, ofClean, hvalue, String.ofList_toList, String.ofList_toList]

theorem exists_scanAll_of_clean (hb : b.Proper) {args : List Argument}
    (h : ∀ a ∈ args, a.Clean) : ∃ source, scanAll b.terminators source = .ok args := by
  let named : List (WrittenNamed b.terminators) :=
    args.attach.map fun a => WrittenNamed.ofClean b a.1 (h a.1 a.2)
  have hnamed : named.map WrittenNamed.argument = args := by
    rw [List.map_map]
    calc args.attach.map (WrittenNamed.argument ∘ fun a => WrittenNamed.ofClean b a.1 (h a.1 a.2))
        = args.attach.map Subtype.val :=
          List.map_congr_left fun a _ => WrittenNamed.argument_ofClean (h a.1 a.2)
      _ = args := List.attach_map_subtype_val args
  refine ⟨writtenText named [], ?_⟩
  rw [scanAll_written hb.terminating, hnamed, List.map_nil, List.append_nil]

/-- **The calls that can be read.**  Some text is read as a call exactly when its name is trimmed
and holds no opening bracket, and its arguments are a block of clean ones, whose names may be empty
and whose values may hold `=`, and a block of positional ones.  In every text that is read, all
arguments are positional from the first scan on that has no `=` before it. -/
theorem exists_parse_iff (b : Brackets) (hb : b.Proper) :
    (∀ call, (∃ text, parse b text = .ok call) ↔
      Trimmed call.name.toList ∧ b.opening ∉ call.name.toList ∧ Readable call.arguments) ∧
    ∀ text name source call, cut b text.toList = (name, some source) → parse b text = .ok call →
      ∀ i rest, (remainders b.terminators source)[i]? = some rest → '=' ∉ rest →
        ∀ a ∈ call.arguments.drop i, a.IsPositional := by
  constructor
  · intro call
    constructor
    · rintro ⟨text, h⟩
      obtain ⟨htrim, hname, -⟩ := clean_of_parse h
      obtain ⟨source, hsource⟩ := exists_scanAll_of_parse h
      exact ⟨htrim, hname, readable_of_scanAll hsource⟩
    · rintro ⟨htrim, hname, hreadable⟩
      obtain ⟨source, hsource⟩ := exists_scanAll_of_clean hb hreadable.clean
      refine ⟨b.enclose call.name.toList source, (parse_enclose_eq_ok_iff hname).2 ⟨?_, hsource⟩⟩
      rw [trim_of_trimmed htrim, String.ofList_toList]
  · intro text name source call hcut h i rest hi hno
    exact isPositional_of_scanAll hno
      (scanAll_of_getElem?_remainders (scanAll_of_parse hcut h) hi)

/-- An argument with an empty name and value, one whose name holds brackets, a comma and a quote and
whose value holds `=`, and a positional one behind them. -/
theorem exists_parse_odd :
    Brackets.square.Proper ∧
      (∃ text, parse .square text
        = .ok ⟨"lib", [⟨"", ""⟩, ⟨"[,\"]", "=\\"⟩, ⟨"", "say \"]\""⟩]⟩) ∧
      cut .square "lib[x=1, y, z]".toList = ("lib".toList, some "x=1, y, z".toList) ∧
      parse .square "lib[x=1, y, z]" = .ok ⟨"lib", [⟨"x", "1"⟩, ⟨"", "y"⟩, ⟨"", "z"⟩]⟩ ∧
      (remainders Brackets.square.terminators "x=1, y, z".toList)[1]? = some " y, z".toList ∧
      '=' ∉ " y, z".toList ∧
      ∀ a ∈ [(⟨"", "y"⟩ : Argument), ⟨"", "z"⟩], a.IsPositional := by
  have hcut : cut .square "lib[x=1, y, z]".toList
      = ("lib".toList, some "x=1, y, z".toList) := by cbv
  have hread : parse .square "lib[x=1, y, z]"
      = .ok ⟨"lib", [⟨"x", "1"⟩, ⟨"", "y"⟩, ⟨"", "z"⟩]⟩ := by cbv
  have hrest : (remainders Brackets.square.terminators "x=1, y, z".toList)[1]?
      = some " y, z".toList := by cbv
  have hequals : '=' ∉ " y, z".toList := by decide
  obtain ⟨hiff, hpositional⟩ := exists_parse_iff .square Brackets.square_proper
  refine ⟨Brackets.square_proper, (hiff _).2 ⟨by decide, by decide, ?_⟩, hcut, hread, hrest,
    hequals, hpositional _ _ _ _ hcut hread 1 _ hrest hequals⟩
  refine ⟨[⟨"", ""⟩, ⟨"[,\"]", "=\\"⟩], [⟨"", "say \"]\""⟩], rfl, ?_, ?_⟩
  · simpa using ⟨⟨by decide, by decide, by decide⟩, ⟨by decide, by decide, by decide⟩⟩
  · simpa using ⟨⟨by decide, by decide, by decide⟩, ⟨rfl, by decide, by decide⟩⟩

end Call

end LibraryCalls
