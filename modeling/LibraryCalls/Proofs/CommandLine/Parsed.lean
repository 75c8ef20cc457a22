import LibraryCalls.CommandLine.Run
import LibraryCalls.Proofs.Json.RoundTrip
import LibraryCalls.Proofs.Text.Terminal

/-!
# Calls in print

`parse` puts out a call as one line of JSON.  Whoever reads the line gets the call back: nothing of
its name and its arguments is lost on the way, and none of it is taken for a control sequence of the
terminal.

The value of a call is a plain one whatever the call holds, since it is built of texts only, and so
the theory of printing applies to it as it stands.  Reading the line gives the members in the order
of their names, which is not the order in which they were put together; that makes no difference to
whoever looks them up by name.

The output of a command passes through the removal of control sequences, and a printed line holds no
escape character for them to begin with.  Hence nothing is removed.

* `plain_callToJson`, `callOf?`, `callOf?_sorted`: calls as values, and values as calls;
* `runParse_ending`: what `parse` puts out for a call that can be read;
* `print_canonical`: the text of a value is one line, it does not tell the order of members, and it
  is read back; so is the line of `parse`.
-/

namespace LibraryCalls.CommandLine

open Json (Plain Reordered sorted)

/-! ### Calls as values -/

def argumentOf? (j : Json) : Option Argument :=
  match j.member? "name", j.member? "value" with
  | some (.str name), some (.str value) => some ⟨name, value⟩
  | _, _ => none

def callOf? (j : Json) : Option Call :=
  match j.member? "name", j.member? "arguments" with
  | some (.str name), some (.arr items) => (items.mapM argumentOf?).map fun as => ⟨name, as⟩
  | _, _ => none

def argumentToJson (a : Argument) : Json :=
  .obj [("name", .str a.name), ("value", .str a.value)]

theorem nodup_pair {a b : String} (h : a ≠ b) (j k : Json) :
    (Assoc.keys [(a, j), (b, k)]).Nodup := by simp [h]

theorem plain_argumentToJson (a : Argument) : Plain (argumentToJson a) := by
  refine .obj (nodup_pair (by decide) _ _) fun m hm => ?_
  simp only [List.mem_cons, List.not_mem_nil, or_false] at hm
  rcases hm with rfl | rfl
  · exact .str a.name
  · exact .str a.value

theorem plain_callToJson (c : Call) : Plain (callToJson c) := by
  refine .obj (nodup_pair (by decide) _ _) fun m hm => ?_
  simp only [List.mem_cons, List.not_mem_nil, or_false] at hm
  rcases hm with rfl | rfl
  · exact .str c.name
  · refine .arr fun j hj => ?_
    obtain ⟨a, -, rfl⟩ := List.mem_map.1 hj
    exact plain_argumentToJson a

theorem argumentOf?_sorted (a : Argument) : argumentOf? (sorted (argumentToJson a)) = some a := by
  have hdistinct := nodup_pair (by decide : "name" ≠ "value") (.str a.name) (.str a.value)
  rw [argumentOf?, argumentToJson, Json.member?_sorted hdistinct, Json.member?_sorted hdistinct]
  rfl

theorem mapM_argumentOf?_sorted (as : List Argument) :
    (as.map fun a => sorted (argumentToJson a)).mapM argumentOf? = some as := by
  induction as with
  | nil => rfl
  | cons a as ih =>
    rw [List.map_cons, List.mapM_cons, argumentOf?_sorted, ih]
    rfl

/-- **The value of a call describes the call**, in whatever order its members stand. -/
theorem callOf?_sorted (c : Call) : callOf? (sorted (callToJson c)) = some c := by
  have hdistinct := nodup_pair (by decide : "name" ≠ "arguments") (.str c.name)
    (.arr (c.arguments.map argumentToJson))
  have hitems : sorted (.arr (c.arguments.map argumentToJson))
      = .arr (c.arguments.map fun a => sorted (argumentToJson a)) := by
    rw [sorted, Json.sortedItems_eq_map, List.map_map]
    rfl
  have hname : (sorted (callToJson c)).member? "name" = some (.str c.name) :=
    Json.member?_sorted hdistinct "name"
  have harguments : (sorted (callToJson c)).member? "arguments"
      = some (.arr (c.arguments.map fun a => sorted (argumentToJson a))) :=
    (Json.member?_sorted hdistinct "arguments").trans (congrArg some hitems)
  simp only [callOf?, hname, harguments, mapM_argumentOf?_sorted, Option.map_some]

/-! ### The line of a call -/

/-- **What `parse` puts out for a call that can be read**: its value in one line. -/
theorem runParse_ending {call brackets : String} {b : Brackets} {c : Call}
    (hbrackets : bracketsNamed? brackets = some b) (hparse : Call.parse b call = .ok c)
    (broken : Option Stage) (files : FileTree) :
    (runParse broken files call brackets none).ending = .ok ⟨0, (callToJson c).print ++ "\n"⟩ := by
  have hescape : '\x1b' ∉ ((callToJson c).print ++ "\n").toList := by
    rw [String.toList_append, Json.print, String.toList_ofList, List.mem_append]
    rintro (hmem | hmem)
    · exact absurd (Json.toNat_of_mem_render (plain_callToJson c) _ hmem) (by decide)
    · exact absurd hmem (by decide)
  simp only [runParse, parsedCall, hbrackets, hparse, deliver, Outcome.ending,
    Text.withoutSequences_eq_self hescape]

/-- **Values in print.**  The text of a plain value has no control character, so that it is one
line; reading it gives the value back, but for the order of members; and values that differ in that
order only have the same text.  The line that `parse` puts out for a call is read back as that call,
the name and every argument as they are. -/
theorem print_canonical :
    (∀ j : Json, Plain j →
      (∀ c ∈ j.print.toList, 0x20 ≤ c.toNat) ∧
      (∃ k, Json.decode j.print = .ok k ∧ Reordered j k) ∧
      ∀ k, Reordered j k → k.print = j.print) ∧
    ∀ (broken : Option Stage) (files : FileTree) (call brackets : String) (b : Brackets) (c : Call),
      bracketsNamed? brackets = some b → Call.parse b call = .ok c →
      ∃ line k, (runParse broken files call brackets none).ending = .ok ⟨0, line⟩ ∧
        Json.decode line = .ok k ∧ Reordered (callToJson c) k ∧ callOf? k = some c := by
  refine ⟨fun j hj => ⟨fun c hc => ?_, ⟨sorted j, Json.decode_print hj, Json.reordered_sorted hj⟩,
    fun k hk => ?_⟩, fun broken files call brackets b c hbrackets hparse => ?_⟩
  · rw [Json.print, String.toList_ofList] at hc
    exact Json.toNat_of_mem_render hj c hc
  · rw [Json.print, Json.print, Json.render_eq_of_reordered hk hj]
  · have hplain := plain_callToJson c
    exact ⟨_, _, runParse_ending hbrackets hparse broken files, Json.decode_print_newline hplain,
      Json.reordered_sorted hplain, callOf?_sorted c⟩

/-- Members in the wrong order, a line break, a quote and a letter with an accent; and a call with a
value that holds a terminal sequence. -/
theorem print_canonical_accented :
    Plain (.obj [("é", .str "a\n\""), ("b", .arr [.int (-12), .null])]) ∧
      Reordered (.obj [("é", .str "a\n\""), ("b", .arr [.int (-12), .null])])
        (.obj [("b", .arr [.int (-12), .null]), ("é", .str "a\n\"")]) ∧
      Json.print (.obj [("b", .arr [.int (-12), .null]), ("é", .str "a\n\"")])
        = Json.print (.obj [("é", .str "a\n\""), ("b", .arr [.int (-12), .null])]) ∧
      Call.parse .square "f[\x1b[0mx=1]" = .ok ⟨"f", [⟨"\x1b[0mx", "1"⟩]⟩ ∧
      ∃ line k, (runParse none {} "f[\x1b[0mx=1]" " Square" none).ending = .ok ⟨0, line⟩ ∧
        Json.decode line = .ok k ∧ callOf? k = some ⟨"f", [⟨"\x1b[0mx", "1"⟩]⟩ := by
  have hlist : Plain (.arr [.int (-12), .null]) := by
    refine .arr fun j hj => ?_
    simp only [List.mem_cons, List.not_mem_nil, or_false] at hj
    rcases hj with rfl | rfl
    · exact .int (by decide)
    · exact .null
  have hplain : Plain (.obj [("é", .str "a\n\""), ("b", .arr [.int (-12), .null])]) := by
    refine .obj (nodup_pair (by decide) _ _) fun m hm => ?_
    simp only [List.mem_cons, List.not_mem_nil, or_false] at hm
    rcases hm with rfl | rfl
    · exact .str _
    · exact hlist
  have hreordered := Json.reordered_of_perm
    (.swap ("b", .arr [.int (-12), .null]) ("é", .str "a\n\"") [])
    (nodup_pair (by decide) _ _)
  have hparse : Call.parse .square "f[\x1b[0mx=1]" = .ok ⟨"f", [⟨"\x1b[0mx", "1"⟩]⟩ := by
    decide +kernel
  have hbrackets : bracketsNamed? " Square" = some .square := by decide
  obtain ⟨line, k, hending, hdecode, -, hcall⟩ :=
    print_canonical.2 none {} "f[\x1b[0mx=1]" " Square" .square _ hbrackets hparse
  exact ⟨hplain, hreordered, (print_canonical.1 _ hplain).2.2 _ hreordered, hparse, line, k,
    hending, hdecode, hcall⟩

end LibraryCalls.CommandLine
