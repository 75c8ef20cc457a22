import Mathlib.Logic.Equiv.Basic
import LibraryCalls.Call.Parse
import LibraryCalls.Proofs.Call.Sequence

/-!
# Calls in other characters

The reader of calls asks of a character whether it is a quote, a backslash, a comma, an equals sign,
a blank or one of the brackets, and nothing else.  All other characters, and the brackets with them,
may be exchanged before a call is read or after it.

An exchange is a map of characters that is injective, keeps blanks and what is not blank apart, and
leaves the quote, the backslash, the comma and the equals sign where they are; the brackets go along
with it.  No finite table is needed, as any such map will do, and exchanges can be put behind each
other.

The proof follows the structure of the reader from the inside out.  The table of the machine
commutes with the exchange, hence so do a run, a scan, the walk, the cut at the brackets and finally
the call, and at each level the result of one proof is all that the next one uses.

* `Renaming`: an exchange of characters that the reader does not notice;
* `Renaming.text`, `.brackets`, `.argument`, `.call`, `.fault`, `.outcome`: what it makes of a text,
  of brackets, and of what is read;
* `cutFirst_map`, `cutLast_map`, `trim_map`: cutting and trimming a text in other characters;
* `scanValue_map`, `scan_map`, `scanFrom_map`: the machine, one scan and all scans;
* `parse_renamed`: reading a call in other characters, in particular in other brackets.
-/

namespace LibraryCalls

open Text

/-! ### Texts in other characters -/

namespace Text

variable {f : Char → Char}

theorem cutFirst_map (hf : Function.Injective f) (c : Char) (cs : List Char) :
    cutFirst (f c) (cs.map f) = (cutFirst c cs).map fun q => (q.1.map f, q.2.map f) := by
  induction cs with
  | nil => rfl
  | cons d cs ih =>
    rw [List.map_cons, cutFirst, cutFirst]
    by_cases hd : d = c
    · rw [if_pos hd, if_pos (congrArg f hd)]
      rfl
    · rw [if_neg hd, if_neg fun heq => hd (hf heq), ih, Option.map_map, Option.map_map]
      rfl

theorem cutLast_map (hf : Function.Injective f) (c : Char) (cs : List Char) :
    cutLast (f c) (cs.map f) = (cutLast c cs).map fun q => (q.1.map f, q.2.map f) := by
  induction cs with
  | nil => rfl
  | cons d cs ih =>
    rw [List.map_cons, cutLast, cutLast, ih]
    cases cutLast c cs with
    | some q => rfl
    | none =>
      by_cases hd : d = c
      · simp [hd]
      · simp [hd, hf.eq_iff]

/-- An exchange of characters that leaves blanks blank takes trimmed texts to trimmed texts. -/
theorem trim_map (hf : ∀ c, isBlank (f c) = isBlank c) (cs : List Char) :
    trim (cs.map f) = (trim cs).map f := by
  have hblank : isBlank ∘ f = isBlank := funext hf
  simp only [trim, trimEnd, trimStart, List.dropWhile_map, hblank, ← List.map_reverse]

end Text

/-! ### Renamings -/

/-- An exchange of characters that the reader of calls does not notice: different characters stay
different, blanks stay blank and nothing else becomes blank, and the characters that mean something
to the reader stay what they are.  The brackets may be exchanged for others. -/
structure Renaming where
  char : Char → Char
  injective : Function.Injective char
  quote : char '"' = '"'
  backslash : char '\\' = '\\'
  comma : char ',' = ','
  equals : char '=' = '='
  isBlank_char : ∀ c, isBlank (char c) = isBlank c

namespace Renaming

open Call

def text (p : Renaming) (s : String) : String :=
  String.ofList (s.toList.map p.char)

def brackets (p : Renaming) (b : Brackets) : Brackets :=
  ⟨p.char b.opening, p.char b.closing⟩

def argument (p : Renaming) (a : Argument) : Argument :=
  ⟨p.text a.name, p.text a.value⟩

def scanned (p : Renaming) (r : Scanned) : Scanned :=
  ⟨p.argument r.argument, r.resume⟩

def call (p : Renaming) (c : Call) : Call :=
  ⟨p.text c.name, c.arguments.map p.argument⟩

/-- The fault stays where it is. -/
def fault (p : Renaming) (e : SyntaxError) : SyntaxError :=
  ⟨p.char e.char, e.position, p.text e.source⟩

/-- What a renaming makes of a call that was read, or of the fault. -/
def outcome (p : Renaming) : Except SyntaxError Call → Except SyntaxError Call
  | .ok c => .ok (p.call c)
  | .error e => .error (p.fault e)

variable (p : Renaming)

@[simp] theorem toList_text (s : String) : (p.text s).toList = s.toList.map p.char :=
  String.toList_ofList

@[simp] theorem text_ofList (cs : List Char) :
    p.text (String.ofList cs) = String.ofList (cs.map p.char) := by
  rw [text, String.toList_ofList]

theorem text_empty : p.text "" = "" := rfl

theorem char_eq_iff {fixed : Char} (h : p.char fixed = fixed) (c : Char) :
    p.char c = fixed ↔ c = fixed := by
  constructor
  · intro heq
    exact p.injective (heq.trans h.symm)
  · rintro rfl
    exact h

theorem terminators_brackets (b : Brackets) :
    (p.brackets b).terminators = b.terminators.map p.char := by
  simp [Brackets.terminators, brackets, p.comma]

/-! ### The machine -/

/-- The machine does with a character what it did with the one before the exchange. -/
theorem act_map (terminators : List Char) (c : Char) (mode : Mode) :
    mode.act (terminators.map p.char) (p.char c) = mode.act terminators c := by
  have hbackslash := p.char_eq_iff p.backslash c
  have hquote := p.char_eq_iff p.quote c
  have hterm : p.char c ∈ terminators.map p.char ↔ c ∈ terminators :=
    List.mem_map_of_injective p.injective
  cases mode <;> simp only [Mode.act, hbackslash, hquote, hterm, p.isBlank_char]

theorem scanValue_map (terminators : List Char) (mode : Mode) (pos : Nat) (cs : List Char) :
    scanValue (terminators.map p.char) mode pos (cs.map p.char) =
      match scanValue terminators mode pos cs with
      | .ok (kept, resume) => .ok (kept.map p.char, resume)
      | .error e => .error ⟨p.char e.char, e.position⟩ := by
  induction cs generalizing mode pos with
  | nil => rfl
  | cons c cs ih =>
    rw [List.map_cons, scanValue, scanValue, p.act_map]
    cases mode.act terminators c with
    | keep next =>
      simp only [ih]
      cases scanValue terminators next (pos + 1) cs <;> rfl
    | skip next => simp only [ih]
    | stop => rfl
    | reject => rfl

/-! ### Scans -/

theorem split_map (source : List Char) (start : Nat) :
    Argument.split (source.map p.char) start =
      ((Argument.split source start).1.map (List.map p.char), (Argument.split source start).2.1,
        (Argument.split source start).2.2.map p.char) := by
  have hcut := cutFirst_map p.injective '=' (source.drop start)
  rw [p.equals, List.map_drop] at hcut
  rw [Argument.split, Argument.split, hcut]
  cases cutFirst '=' (source.drop start) with
  | none => simp [List.map_drop]
  | some q => simp [trim_map p.isBlank_char]

theorem scan_map (terminators source : List Char) (start : Nat) :
    Argument.scan (terminators.map p.char) (source.map p.char) start =
      match Argument.scan terminators source start with
      | .error e => .error (p.fault e)
      | .ok found => .ok (found.map p.scanned) := by
  rcases hsplit : Argument.split source start with ⟨name?, pos, rest⟩
  rw [Argument.scan, Argument.scan, p.split_map, hsplit]
  simp only [p.scanValue_map]
  cases scanValue terminators .lead pos rest with
  | error e => simp [fault]
  | ok r =>
    simp only [trim_map p.isBlank_char, List.map_eq_nil_iff, Option.isNone_map]
    split_ifs with hnone
    · rfl
    · cases name? with
      | none => simp [scanned, argument, p.text_empty]
      | some name => simp [scanned, argument]

/-- **All scans of a text in other characters.** -/
theorem scanFrom_map (terminators source : List Char) (start : Nat) :
    Argument.scanFrom (terminators.map p.char) (source.map p.char) start =
      ((Argument.scanFrom terminators source start).1.map p.scanned,
        (Argument.scanFrom terminators source start).2.map p.fault) := by
  fun_induction Argument.scanFrom terminators source start with
  | case1 start e h =>
    rw [Argument.scanFrom_eq, p.scan_map, h]
    rfl
  | case2 start h =>
    rw [Argument.scanFrom_eq, p.scan_map, h]
    rfl
  | case3 start r h _ rest fault hrest ih =>
    have hresume : (p.scanned r).resume = r.resume := rfl
    rw [Argument.scanFrom_eq, p.scan_map, h]
    simp only [Option.map_some, hresume, ih, hrest, List.map_cons]

theorem scanAll_map (terminators source : List Char) :
    Argument.scanAll (terminators.map p.char) (source.map p.char) =
      match Argument.scanAll terminators source with
      | .ok args => .ok (args.map p.argument)
      | .error e => .error (p.fault e) := by
  rw [Argument.scanAll, Argument.scanAll, p.scanFrom_map]
  rcases Argument.scanFrom terminators source 0 with ⟨scanned, fault?⟩
  cases fault? with
  | none => simp [Renaming.scanned, Function.comp_def]
  | some e => rfl

/-! ### Calls -/

theorem cut_map (b : Brackets) (cs : List Char) :
    cut (p.brackets b) (cs.map p.char) =
      ((cut b cs).1.map p.char, (cut b cs).2.map (List.map p.char)) := by
  rw [cut, cut, brackets, cutFirst_map p.injective]
  cases cutFirst b.opening cs with
  | none => simp [trim_map p.isBlank_char]
  | some q =>
    simp only [Option.map_some, cutLast_map p.injective]
    cases cutLast b.closing q.2 <;> simp [trim_map p.isBlank_char]

/-- **A call in other characters** is read as the call in the old ones is, and so is a fault. -/
theorem parse_text (b : Brackets) (text : String) :
    parse (p.brackets b) (p.text text) = p.outcome (parse b text) := by
  rw [parse, parse, toList_text, p.cut_map]
  rcases cut b text.toList with ⟨name, source?⟩
  cases source? with
  | none => simp [outcome, call]
  | some source =>
    simp only [Option.map_some, p.terminators_brackets, p.scanAll_map]
    cases Argument.scanAll b.terminators source with
    | error e => rfl
    | ok args => simp [Except.map, outcome, call]

/-! ### Other brackets -/

/-- Two characters exchanged for one another, both of them such that they may be brackets. -/
def swap (a b : Char) (ha : Delimiter a) (hb : Delimiter b) : Renaming where
  char := Equiv.swap a b
  injective := (Equiv.swap a b).injective
  quote := Equiv.swap_apply_of_ne_of_ne ha.ne_quote.symm hb.ne_quote.symm
  backslash := Equiv.swap_apply_of_ne_of_ne ha.ne_backslash.symm hb.ne_backslash.symm
  comma := Equiv.swap_apply_of_ne_of_ne ha.ne_comma.symm hb.ne_comma.symm
  equals := Equiv.swap_apply_of_ne_of_ne ha.ne_equals.symm hb.ne_equals.symm
  isBlank_char := by
    intro c
    rw [Equiv.swap_apply_def]
    split_ifs with hca hcb
    · rw [hca, ha.not_blank, hb.not_blank]
    · rw [hcb, ha.not_blank, hb.not_blank]
    · rfl

/-- One exchange behind the other. -/
def comp (p q : Renaming) : Renaming where
  char := p.char ∘ q.char
  injective := p.injective.comp q.injective
  quote := by rw [Function.comp_apply, q.quote, p.quote]
  backslash := by rw [Function.comp_apply, q.backslash, p.backslash]
  comma := by rw [Function.comp_apply, q.comma, p.comma]
  equals := by rw [Function.comp_apply, q.equals, p.equals]
  isBlank_char := fun c => (p.isBlank_char (q.char c)).trans (q.isBlank_char c)

/-- The round brackets and the square ones, exchanged for one another. -/
def swapBrackets : Renaming :=
  (swap '(' '[' (by decide) (by decide)).comp (swap ')' ']' (by decide) (by decide))

theorem swapBrackets_swapBrackets (s : String) :
    swapBrackets.text (swapBrackets.text s) = s := by
  have htwice : swapBrackets.char ∘ swapBrackets.char = id := by
    funext c
    simp only [swapBrackets, comp, swap, Function.comp_apply, Equiv.swap_apply_def, id_eq]
    grind
  rw [text, toList_text, List.map_map, htwice, List.map_id, String.ofList_toList]

end Renaming

/-- **Calls in other characters.**  A call whose characters are exchanged, its brackets among them,
is read as the call before the exchange with the characters of its name, its names and its values
exchanged; a fault stays where it is, with its character and its text exchanged.  So a call in
square brackets is read as a call in round ones, once the two kinds have changed places in its text.
-/
theorem Call.parse_renamed :
    (∀ (p : Renaming) (b : Brackets) (text : String),
      parse (p.brackets b) (p.text text) = p.outcome (parse b text)) ∧
    ∀ text : String,
      parse .square text
        = Renaming.swapBrackets.outcome (parse .round (Renaming.swapBrackets.text text)) := by
  refine ⟨fun p b text => p.parse_text b text, fun text => ?_⟩
  have hbrackets : Renaming.swapBrackets.brackets .round = .square := by decide
  have hswap := Renaming.swapBrackets.parse_text .round (Renaming.swapBrackets.text text)
  rwa [Renaming.swapBrackets_swapBrackets, hbrackets] at hswap

end LibraryCalls
