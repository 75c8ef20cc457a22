import LibraryCalls.Call.Parse
import LibraryCalls.Proofs.Call.Sequence

/-!
# A call in its brackets

The text of a call is cut at the first opening bracket and at the last closing one.

Cutting at the first opening bracket and at the last closing one is undone by putting the brackets
back, if the name holds no opening bracket; the tail behind the last closing bracket is lost.  When
the two brackets are the same character, the text between the first and the last of them is meant,
and the same statements hold.

Everything that later modules say of a call is said of its name and of the text between its brackets
separately, and put together by the lemmas here.  A call that was read is clean: there is no blank
at the ends of its name and its values, and no argument has a name that holds an equals sign.

* `Brackets.enclose`: a name and the text of its arguments in brackets;
* `parse_between`: what is read of a name, the text of its arguments and a tail behind them;
* `name_of_parse`, `scanAll_of_parse`: where the parts of a call that was read come from;
* `clean_of_parse`: what a call that was read is like.
-/

namespace LibraryCalls

open Text

def Brackets.enclose (b : Brackets) (name arguments : List Char) : String :=
  String.ofList (name ++ b.opening :: (arguments ++ [b.closing]))

namespace Call

theorem cut_between {b : Brackets} {name tail : List Char} (hname : b.opening ∉ name)
    (htail : b.closing ∉ tail) (arguments : List Char) :
    cut b (name ++ b.opening :: (arguments ++ b.closing :: tail))
      = (trim name, some arguments) := by
  rw [cut, cutFirst_eq_some_iff.2 ⟨rfl, hname⟩]
  simp only [cutLast_eq_some_iff.2 ⟨rfl, htail⟩]

/-- **Reading what stands between the brackets.** -/
theorem parse_between {b : Brackets} {name tail : List Char} (hname : b.opening ∉ name)
    (htail : b.closing ∉ tail) (arguments : List Char) :
    parse b (String.ofList (name ++ b.opening :: (arguments ++ b.closing :: tail)))
      = (Argument.scanAll b.terminators arguments).map
          fun args => ⟨String.ofList (trim name), args⟩ := by
  rw [parse, String.toList_ofList, cut_between hname htail]

theorem parse_enclose {b : Brackets} {name : List Char} (hname : b.opening ∉ name)
    (arguments : List Char) :
    parse b (b.enclose name arguments)
      = (Argument.scanAll b.terminators arguments).map
          fun args => ⟨String.ofList (trim name), args⟩ :=
  parse_between hname List.not_mem_nil arguments

/-- When the arguments of an enclosed text are read, its name is too. -/
theorem parse_enclose_eq_ok_iff {b : Brackets} {name : List Char} (hname : b.opening ∉ name)
    {arguments : List Char} {call : Call} :
    parse b (b.enclose name arguments) = .ok call ↔
      call.name = String.ofList (trim name) ∧
        Argument.scanAll b.terminators arguments = .ok call.arguments := by
  rw [parse_enclose hname]
  cases Argument.scanAll b.terminators arguments with
  | error e => simp [Except.map]
  | ok args =>
    simp only [Except.map, Except.ok.injEq]
    constructor
    · rintro rfl
      exact ⟨rfl, rfl⟩
    · rintro ⟨hn, rfl⟩
      rw [← hn]

/-! ### What has been read -/

theorem name_of_cut (b : Brackets) (text : List Char) :
    Trimmed (cut b text).1 ∧ b.opening ∉ (cut b text).1 := by
  have hname : ∀ before : List Char, b.opening ∉ before →
      Trimmed (trim before) ∧ b.opening ∉ trim before :=
    fun before h => ⟨trimmed_trim before, fun hm => h (mem_of_mem_trim hm)⟩
  rw [cut]
  cases hc : cutFirst b.opening text with
  | none => exact hname text (cutFirst_eq_none_iff.1 hc)
  | some p =>
    obtain ⟨before, after⟩ := p
    have hb := hname before (cutFirst_eq_some_iff.1 hc).2
    simp only
    cases cutLast b.closing after <;> exact hb

theorem name_of_parse {b : Brackets} {text : String} {call : Call}
    (h : parse b text = .ok call) : call.name.toList = (cut b text.toList).1 := by
  rcases hcut : cut b text.toList with ⟨name, source⟩
  rw [parse, hcut] at h
  cases source with
  | none =>
    obtain rfl := Except.ok.inj h
    exact String.toList_ofList
  | some source =>
    simp only at h
    cases hs : Argument.scanAll b.terminators source with
    | error e => simp [hs, Except.map] at h
    | ok args =>
      rw [hs] at h
      obtain rfl := Except.ok.inj h
      exact String.toList_ofList

/-- The arguments of a call that was read are those of the text between its brackets. -/
theorem scanAll_of_parse {b : Brackets} {text : String} {name source : List Char} {call : Call}
    (hcut : cut b text.toList = (name, some source)) (h : parse b text = .ok call) :
    Argument.scanAll b.terminators source = .ok call.arguments := by
  rw [parse, hcut] at h
  cases hs : Argument.scanAll b.terminators source with
  | error e => simp [hs, Except.map] at h
  | ok args =>
    simp only [hs, Except.map, Except.ok.injEq] at h
    rw [← h]

/-- A call without brackets has the arguments of the empty text. -/
theorem exists_scanAll_of_parse {b : Brackets} {text : String} {call : Call}
    (h : parse b text = .ok call) :
    ∃ source, Argument.scanAll b.terminators source = .ok call.arguments := by
  rcases hcut : cut b text.toList with ⟨name, source⟩
  cases source with
  | none =>
    rw [parse, hcut] at h
    obtain rfl := Except.ok.inj h
    exact ⟨[], Argument.scanAll_of_none rfl⟩
  | some source => exact ⟨source, scanAll_of_parse hcut h⟩

/-- **What a call that was read is like.**  Its name is trimmed and holds no opening bracket, and
each of its arguments is clean. -/
theorem clean_of_parse {b : Brackets} {text : String} {call : Call}
    (h : parse b text = .ok call) :
    Trimmed call.name.toList ∧ b.opening ∉ call.name.toList ∧ ∀ a ∈ call.arguments, a.Clean := by
  obtain ⟨htrim, hopening⟩ := name_of_cut b text.toList
  obtain ⟨source, hsource⟩ := exists_scanAll_of_parse h
  rw [← name_of_parse h] at htrim hopening
  exact ⟨htrim, hopening, Argument.clean_of_scanAll hsource⟩

end Call

end LibraryCalls
