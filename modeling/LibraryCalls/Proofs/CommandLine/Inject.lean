import LibraryCalls.CommandLine.Run
import LibraryCalls.Proofs.Files.AtomicWrite
import LibraryCalls.Proofs.Library.Outcome
import LibraryCalls.Proofs.Resolution.Order
import LibraryCalls.Proofs.Source.Directory
import LibraryCalls.Proofs.Text.Terminal

/-!
# Injecting from the command line

`inject` reads a call twice, once for the name of its library and once to resolve it, and in between
it reads the descriptor.  So its faults come in a fixed order, an unknown library is not among them,
and what it puts out is the code of the descriptor's definition for the values of the call.

The theorems follow the command in three stages.  The first says what is to be put out as a
computation with its record; the second what becomes of it when it is put out or written to a file;
the third what is seen from the outside, which is a status and an output.  A control sequence in the
code is seen in none of the outputs but stands in the file.

The descriptor is read under the name that the call gives, so that a library is never unknown here.
A number that is too long is left out of the statement by a hypothesis, since it ends the command
without a report.

* `Refused`, `Accepted`, `refused_or_accepted`: the faults of a call in their order, and what it
  takes to have none;
* `outcome_resolve_own`: a call resolved with the descriptor of its own library only;
* `outcome_injectedCode_of_refused`, `outcome_injectedCode_of_accepted`: what is to be put out;
* `runInject_of_refused`, `runInject_of_accepted`: how it is put out;
* `runInject_status_two_iff`, `runInject_message_iff`, `runInject_code`: what is seen of it;
* `runInject_outcome`: the command from its start to its end.
-/

namespace LibraryCalls.CommandLine

open Placeholder Resolution

variable {policy : Policy} {call text : String} {c : Call} {d : Descriptor}
  {values : Assoc String String} {fault : Fault}

/-! ### Faults and their order -/

/-- **Why nothing is injected**: the call cannot be read, the descriptor is rejected, the arguments
do not fit, or the strict policy refuses an entry.  Each of these supposes that those before it are
not the case. -/
inductive Refused (policy : Policy) (call text : String) : Fault → Prop
  | call {e : Call.SyntaxError} (read : Call.parse .round call = .error e) :
    Refused policy call text (.call e)
  | descriptor {c : Call} {e : Descriptor.Error} (read : Call.parse .round call = .ok c)
      (described : Descriptor.parse (some c.name) text = .error (.rejected e)) :
    Refused policy call text (.descriptor e)
  | binding {c : Call} {d : Descriptor} {e : Binding.Error} (read : Call.parse .round call = .ok c)
      (described : Descriptor.parse (some c.name) text = .ok d)
      (bound : bindArguments c.name d.parameters c.arguments = .error e) :
    Refused policy call text (.binding e)
  | unresolved {c : Call} {d : Descriptor} {values : Assoc String String} {entry : String}
      (read : Call.parse .round call = .ok c)
      (described : Descriptor.parse (some c.name) text = .ok d)
      (bound : bindArguments c.name d.parameters c.arguments = .ok values)
      (strict : policy = .strict)
      (found : d.definition.entries.find? (fun e => missing values e ≠ []) = some entry) :
    Refused policy call text (.unresolved ⟨missing values entry, entry⟩)

/-- A call that can be read, with a descriptor that is one, arguments that fit, and, under the
strict policy, a value for every placeholder. -/
structure Accepted (policy : Policy) (call text : String) (c : Call) (d : Descriptor)
    (values : Assoc String String) : Prop where
  read : Call.parse .round call = .ok c
  described : Descriptor.parse (some c.name) text = .ok d
  bound : bindArguments c.name d.parameters c.arguments = .ok values
  valued : policy = .strict → ∀ e ∈ d.definition.entries, missing values e = []

/-- **A call is refused or accepted**, unless a number in the descriptor is too long to be read. -/
theorem refused_or_accepted (policy : Policy) (call : String)
    (hsize : ∀ name digits, Descriptor.parse (some name) text ≠ .error (.oversizedInteger digits)) :
    (∃ fault, Refused policy call text fault) ∨
      ∃ c d values, Accepted policy call text c d values := by
  cases hread : Call.parse .round call with
  | error e => exact .inl ⟨_, .call hread⟩
  | ok c =>
    cases hdescribed : Descriptor.parse (some c.name) text with
    | error e =>
      cases e with
      | rejected e => exact .inl ⟨_, .descriptor hread hdescribed⟩
      | oversizedInteger digits => exact absurd hdescribed (hsize c.name digits)
    | ok d =>
      cases hbound : bindArguments c.name d.parameters c.arguments with
      | error e => exact .inl ⟨_, .binding hread hdescribed hbound⟩
      | ok values =>
        rcases Definition.injection_cases policy values d.definition with
          ⟨entry, hstrict, hfound⟩ | hvalued
        · exact .inl ⟨_, .unresolved hread hdescribed hbound hstrict hfound⟩
        · exact .inr ⟨c, d, values, hread, hdescribed, hbound, hvalued⟩

/-- Every one of these faults is reported under the status two. -/
theorem Refused.report (h : Refused policy call text fault) :
    ∃ message, fault.report? = some (2, message) := by
  cases h <;> exact ⟨_, rfl⟩

/-! ### What is injected -/

/-- **A call whose library is the only one known** is resolved to the code of that library's
definition. -/
theorem outcome_resolve_own (hread : Call.parse .round call = .ok c) (d : Descriptor)
    (policy : Policy) :
    (resolve [(c.name, d)] none [] policy call).outcome =
      match bindArguments c.name d.parameters c.arguments with
      | .error e => .error (.binding e)
      | .ok values =>
        match d.definition.injection policy values with
        | .error u => .error (.unresolved u)
        | .ok code => .ok ⟨c.name, values, [d.definition], code.toList⟩ := by
  have hknown : Assoc.get? [(c.name, d)] c.name = some d := if_pos rfl
  rw [resolve_eq]
  simp only [bindCall, hread, hknown]
  cases bindArguments c.name d.parameters c.arguments with
  | error e => rfl
  | ok values =>
    have hcollect : (collect none [.ready d.definition]).outcome = .ok [d.definition] := by
      rw [collect_ready]
      rfl
    simp only [hcollect, injections]
    cases d.definition.injection policy values with
    | error u => rfl
    | ok code => simp only [Except.map, List.append_nil]

/-- The descriptor is looked at when the call has been read. -/
theorem outcome_injectedCode_of_read (hread : Call.parse .round call = .ok c) (policy : Policy) :
    (injectedCode policy call (.ok text)).outcome =
      match Descriptor.parse (some c.name) text with
      | .error e => .error (Fault.ofDescriptor e)
      | .ok d =>
        ((resolve [(c.name, d)] none [] policy call).outcome.mapError Fault.ofResolution).map
          Resolved.initCode := by
  have hnamed : (Traced.ofExcept ((Call.parse .round call).mapError .call) :
      Traced Host.Step Fault Call).outcome = .ok c := by
    rw [hread]
    rfl
  have htext : (Traced.ofExcept ((Except.ok text : Except FileError String).mapError .file) :
      Traced Host.Step Fault String).outcome = .ok text := rfl
  rw [injectedCode, Traced.outcome_bind_ok hnamed, Traced.outcome_bind_ok htext]
  cases hdescribed : Descriptor.parse (some c.name) text with
  | error e => exact Traced.outcome_bind_error rfl _
  | ok d =>
    rw [Traced.outcome_bind_ok (a := d) rfl]
    cases hresolve : (resolve [(c.name, d)] none [] policy call).outcome with
    | error e =>
      rw [Traced.mapError_of_error hresolve, Traced.outcome_bind_error rfl]
      simp only [hresolve]
      rfl
    | ok r =>
      rw [Traced.mapError_of_ok hresolve, Traced.outcome_bind_ok (a := r) rfl]
      simp only [hresolve]
      rfl

theorem outcome_injectedCode_of_refused (h : Refused policy call text fault) :
    (injectedCode policy call (.ok text)).outcome = .error fault := by
  cases h with
  | call read =>
    rw [injectedCode, read]
    rfl
  | descriptor read described =>
    rw [outcome_injectedCode_of_read read, described]
    rfl
  | binding read described bound =>
    rw [outcome_injectedCode_of_read read, described]
    simp only [outcome_resolve_own read, bound]
    rfl
  | unresolved read described bound strict found =>
    subst strict
    rw [outcome_injectedCode_of_read read, described]
    simp only [outcome_resolve_own read, bound, Definition.injection_of_refused found]
    rfl

/-- **What an accepted call injects**: nothing for a definition without entries, else its code. -/
theorem outcome_injectedCode_of_accepted (h : Accepted policy call text c d values) :
    (injectedCode policy call (.ok text)).outcome
      = .ok (if d.definition.entries = [] then []
          else [Definition.code (d.definition.filled values)]) := by
  rw [outcome_injectedCode_of_read h.read, h.described]
  simp only [outcome_resolve_own h.read, h.bound, Definition.injection_of_accepted h.valued]
  split <;> rfl

/-! ### The command -/

section

variable {files : FileTree} {descriptor : Path}

theorem runInject_of_refused (broken : Option Stage) (out : Option Path)
    (hread : files.readText descriptor = .ok text) (h : Refused policy call text fault) :
    (runInject broken files call descriptor policy out).result = .error fault ∧
      (runInject broken files call descriptor policy out).files = files := by
  simp only [runInject, hread, outcome_injectedCode_of_refused h, and_self]

/-- Nothing is put out but that there is nothing to inject, and no file is written. -/
theorem runInject_of_empty (broken : Option Stage) (out : Option Path)
    (hread : files.readText descriptor = .ok text) (h : Accepted policy call text c d values)
    (hempty : d.definition.entries = []) :
    (runInject broken files call descriptor policy out).result = .ok "INFO: no code to inject\n" ∧
      (runInject broken files call descriptor policy out).files = files := by
  simp only [runInject, hread, outcome_injectedCode_of_accepted h, if_pos hempty, and_self]

/-- **The code of a call is put out**, or written to a file, which may fail. -/
theorem runInject_of_accepted (broken : Option Stage) (out : Option Path)
    (hread : files.readText descriptor = .ok text) (h : Accepted policy call text c d values)
    (hentries : d.definition.entries ≠ []) :
    let after := runInject broken files call descriptor policy out
    let code := Definition.code (d.definition.filled values)
    (out = none ∧ after.result = .ok code ∧ after.files = files) ∨
      ∃ path, out = some path ∧
        ((∃ e, (files.writeAtomic broken path code).2 = .error e ∧
            after.result = .error (.file e)) ∨
          ((files.writeAtomic broken path code).2 = .ok () ∧
            after.result = .ok s!"INFO: wrote {path.toString}\n" ∧
            after.files = (files.writeAtomic broken path code).1)) := by
  intro after code
  have hjoin : String.join [code] = code := by simp [String.join]
  have hafter : after.result = (deliver broken files out code code).2 ∧
      after.files = (deliver broken files out code code).1 := by
    simp only [after, runInject, hread, outcome_injectedCode_of_accepted h, if_neg hentries]
    exact ⟨congrArg (fun text => (deliver broken files out text text).2) hjoin,
      congrArg (fun text => (deliver broken files out text text).1) hjoin⟩
  rw [hafter.1, hafter.2]
  cases out with
  | none => exact .inl ⟨rfl, rfl, rfl⟩
  | some path =>
    refine .inr ⟨path, rfl, ?_⟩
    rw [deliver]
    cases files.writeAtomic broken path code with
    | mk written outcome =>
      cases outcome with
      | error e => exact .inl ⟨e, rfl, rfl⟩
      | ok => exact .inr ⟨rfl, rfl, rfl⟩

/-- An accepted call meets no fault but that its code cannot be written. -/
theorem runInject_result_of_accepted (broken : Option Stage) (out : Option Path)
    (hread : files.readText descriptor = .ok text) (h : Accepted policy call text c d values) :
    (∃ output, (runInject broken files call descriptor policy out).result = .ok output) ∨
      ∃ e, (runInject broken files call descriptor policy out).result = .error (.file e) := by
  by_cases hentries : d.definition.entries = []
  · exact .inl ⟨_, (runInject_of_empty broken out hread h hentries).1⟩
  · rcases runInject_of_accepted broken out hread h hentries with
      ⟨-, hresult, -⟩ | ⟨path, -, ⟨e, -, hresult⟩ | ⟨-, hresult, -⟩⟩
    · exact .inl ⟨_, hresult⟩
    · exact .inr ⟨e, hresult⟩
    · exact .inl ⟨_, hresult⟩

end

/-! ### What is seen of it -/

theorem Outcome.ending_of_ok {o : Outcome} {output : String} (h : o.result = .ok output) :
    o.ending = .ok ⟨0, Text.withoutSequences output⟩ := by
  rw [Outcome.ending, h]

theorem Outcome.ending_of_error {o : Outcome} (h : o.result = .error fault) {status : Nat}
    {message : String} (hreport : fault.report? = some (status, message)) :
    o.ending = .ok ⟨status, Text.withoutSequences s!"ERROR: {message}\n"⟩ := by
  simp only [Outcome.ending, h, hreport]

/-- Code in print begins as one of the three kinds of statements does, and no message does. -/
theorem withoutSequences_code_ne {ss : List Statement} (h : ss ≠ []) :
    Text.withoutSequences (Definition.code ss) ≠ "INFO: no code to inject\n" := by
  obtain ⟨s, rest, rfl⟩ := List.exists_cons_of_ne_nil h
  have hcode : Definition.code (s :: rest)
      = s.opening ++ (s.entry ++ (s.closing ++ ("\n" ++ Definition.code rest))) := by
    rw [Definition.code, List.map_cons, String.join_cons, Statement.line, Statement.text_eq]
    simp only [String.append_assoc, Definition.code]
  have hopening : '\x1b' ∉ s.opening.toList ∧
      (s.opening.toList.head? = some '@' ∨ s.opening.toList.head? = some 'i') := by
    cases s with
    | repository =>
      exact ⟨(by decide : '\x1b' ∉ "@file:Repository(\"".toList),
        .inl (by decide : "@file:Repository(\"".toList.head? = some '@')⟩
    | dependency =>
      exact ⟨(by decide : '\x1b' ∉ "@file:DependsOn(\"".toList),
        .inl (by decide : "@file:DependsOn(\"".toList.head? = some '@')⟩
    | import_ =>
      exact ⟨(by decide : '\x1b' ∉ "import ".toList),
        .inr (by decide : "import ".toList.head? = some 'i')⟩
  rw [hcode, Text.withoutSequences_append hopening.1]
  intro heq
  have hhead := congrArg (fun text : String => text.toList.head?) heq
  simp only [String.toList_append, List.head?_append] at hhead
  rcases hopening.2 with hat | hi
  · rw [hat, Option.some_or] at hhead
    exact absurd hhead (by decide)
  · rw [hi, Option.some_or] at hhead
    exact absurd hhead (by decide)

theorem withoutSequences_wrote_ne (path : Path) :
    Text.withoutSequences s!"INFO: wrote {path.toString}\n" ≠ "INFO: no code to inject\n" := by
  show Text.withoutSequences ("INFO: wrote " ++ path.toString ++ "\n") ≠ _
  rw [String.append_assoc, Text.withoutSequences_append (by decide)]
  intro heq
  have hchar := congrArg (fun text : String => text.toList[6]?) heq
  simp only [String.toList_append] at hchar
  rw [List.getElem?_append_left (by decide)] at hchar
  exact absurd hchar (by decide)

theorem filled_ne_nil (h : d.definition.entries ≠ []) : d.definition.filled values ≠ [] := by
  rw [Definition.filled, ne_eq, List.map_eq_nil_iff]
  intro hnil
  exact h (by rw [← Definition.map_entry_statements, hnil, List.map_nil])

section

variable {files : FileTree} {descriptor : Path} (broken : Option Stage) (out : Option Path)
  (hread : files.readText descriptor = .ok text)

include hread

/-- A refused call is reported, and no file is written. -/
theorem runInject_ending_of_refused (h : Refused policy call text fault) :
    (runInject broken files call descriptor policy out).files = files ∧
      ∃ message, fault.report? = some (2, message) ∧
        (runInject broken files call descriptor policy out).ending
          = .ok ⟨2, Text.withoutSequences s!"ERROR: {message}\n"⟩ := by
  obtain ⟨hresult, hfiles⟩ := runInject_of_refused broken out hread h
  obtain ⟨message, hreport⟩ := h.report
  exact ⟨hfiles, message, hreport, Outcome.ending_of_error hresult hreport⟩

/-- The library of a call is known by the name that the call gives. -/
theorem runInject_ne_unknownLibrary
    (hcases : (∃ fault, Refused policy call text fault) ∨
      ∃ c d values, Accepted policy call text c d values) (name : String) :
    (runInject broken files call descriptor policy out).result ≠ .error (.unknownLibrary name) := by
  intro hresult
  rcases hcases with ⟨fault, h⟩ | ⟨c, d, values, h⟩
  · rw [(runInject_of_refused broken out hread h).1] at hresult
    cases hresult
    cases h
  · rcases runInject_result_of_accepted broken out hread h with ⟨output, hok⟩ | ⟨e, herror⟩
    · cases hok.symm.trans hresult
    · cases herror.symm.trans hresult

/-- **The status is two** exactly for a refused call. -/
theorem runInject_status_two_iff
    (hcases : (∃ fault, Refused policy call text fault) ∨
      ∃ c d values, Accepted policy call text c d values) :
    (∃ output, (runInject broken files call descriptor policy out).ending = .ok ⟨2, output⟩) ↔
      ∃ fault, Refused policy call text fault := by
  constructor
  · rintro ⟨output, hending⟩
    rcases hcases with hfault | ⟨c, d, values, h⟩
    · exact hfault
    · rcases runInject_result_of_accepted broken out hread h with ⟨shown, hok⟩ | ⟨e, herror⟩
      · cases (Outcome.ending_of_ok hok).symm.trans hending
      · rw [Outcome.ending, herror] at hending
        cases hending
  · rintro ⟨fault, h⟩
    obtain ⟨-, message, -, hending⟩ := runInject_ending_of_refused broken out hread h
    exact ⟨_, hending⟩

/-- **That there is no code** is said exactly for a definition without entries. -/
theorem runInject_message_iff (h : Accepted policy call text c d values) :
    (runInject broken files call descriptor policy out).ending
      = .ok ⟨0, "INFO: no code to inject\n"⟩ ↔ d.definition.entries = [] := by
  constructor
  · intro hending
    by_contra hentries
    rcases runInject_of_accepted broken out hread h hentries with
      ⟨-, hresult, -⟩ | ⟨path, -, ⟨e, -, hresult⟩ | ⟨-, hresult, -⟩⟩
    · have hsame := (Outcome.ending_of_ok hresult).symm.trans hending
      exact withoutSequences_code_ne (filled_ne_nil hentries)
        (congrArg Ending.output (Except.ok.inj hsame))
    · rw [Outcome.ending, hresult] at hending
      cases hending
    · have hsame := (Outcome.ending_of_ok hresult).symm.trans hending
      exact withoutSequences_wrote_ne path (congrArg Ending.output (Except.ok.inj hsame))
  · intro hentries
    obtain ⟨hresult, -⟩ := runInject_of_empty broken out hread h hentries
    rw [Outcome.ending_of_ok hresult, Text.withoutSequences_eq_self (by decide)]

/-- **The code of a definition with entries** is put out, or stands in the file that is asked for.
-/
theorem runInject_code (h : Accepted policy call text c d values)
    (hentries : d.definition.entries ≠ []) :
    let after := runInject broken files call descriptor policy out
    let code := Definition.code (d.definition.filled values)
    (out = none → after.ending = .ok ⟨0, Text.withoutSequences code⟩ ∧ after.files = files) ∧
      ∀ path, out = some path → (files.writeAtomic broken path code).2 = .ok () →
        after.ending = .ok ⟨0, Text.withoutSequences s!"INFO: wrote {path.toString}\n"⟩ ∧
          after.files.read path = .ok (Text.encode code) := by
  intro after code
  rcases runInject_of_accepted broken out hread h hentries with
    ⟨rfl, hresult, hfiles⟩ | ⟨path, rfl, hend⟩
  · exact ⟨fun _ => ⟨Outcome.ending_of_ok hresult, hfiles⟩, fun path hout => (by cases hout)⟩
  · refine ⟨fun hout => (by cases hout), fun path' hout hwrite => ?_⟩
    obtain rfl := Option.some.inj hout
    rcases hend with ⟨e, herror, -⟩ | ⟨-, hresult, hfiles⟩
    · cases hwrite.symm.trans herror
    · refine ⟨Outcome.ending_of_ok hresult, ?_⟩
      rw [show after.files = _ from hfiles]
      exact FileTree.read_of_writeAtomic hwrite

end

/-- **Injecting from the command line.**  The library of the call is never unknown.  The status is
two exactly when the call is refused; then the first fault in the order of the steps is reported,
and no file is written.  An accepted call ends with the message that there is no code exactly when
the descriptor has no repository, no dependency and no import, and then no file is written.
Otherwise its code is put out without control sequences, or, where a file is asked for that can be
written, that file holds exactly the code. -/
theorem runInject_outcome (broken : Option Stage) (files : FileTree) (call : String)
    (descriptor : Path) (policy : Policy) (out : Option Path) {text : String}
    (hread : files.readText descriptor = .ok text)
    (hsize : ∀ name digits,
      Descriptor.parse (some name) text ≠ .error (.oversizedInteger digits)) :
    let after := runInject broken files call descriptor policy out
    (∀ name, after.result ≠ .error (.unknownLibrary name)) ∧
    ((∃ output, after.ending = .ok ⟨2, output⟩) ↔ ∃ fault, Refused policy call text fault) ∧
    (∀ fault, Refused policy call text fault → after.files = files ∧
      ∃ message, fault.report? = some (2, message) ∧
        after.ending = .ok ⟨2, Text.withoutSequences s!"ERROR: {message}\n"⟩) ∧
    ((∃ fault, Refused policy call text fault) ∨
      ∃ c d values, Accepted policy call text c d values) ∧
    ∀ c d values, Accepted policy call text c d values →
      (after.ending = .ok ⟨0, "INFO: no code to inject\n"⟩ ↔ d.definition.entries = []) ∧
      (d.definition.entries = [] → after.files = files) ∧
      (d.definition.entries ≠ [] → ∃ code,
        d.definition.injectionOf policy (some values) = .ok (some code) ∧
        (out = none →
          after.ending = .ok ⟨0, Text.withoutSequences code⟩ ∧ after.files = files) ∧
        ∀ path, out = some path → (files.writeAtomic broken path code).2 = .ok () →
          after.ending = .ok ⟨0, Text.withoutSequences s!"INFO: wrote {path.toString}\n"⟩ ∧
            after.files.read path = .ok (Text.encode code)) := by
  intro after
  have hcases := refused_or_accepted policy call hsize
  refine ⟨runInject_ne_unknownLibrary broken out hread hcases,
    runInject_status_two_iff broken out hread hcases,
    fun fault h => runInject_ending_of_refused broken out hread h, hcases, fun c d values h =>
      ⟨runInject_message_iff broken out hread h,
        fun hempty => (runInject_of_empty broken out hread h hempty).2, fun hentries =>
          ⟨_, ?_, runInject_code broken out hread h hentries⟩⟩⟩
  rw [Definition.injectionOf, Option.getD_some, Definition.injection_of_accepted h.valued,
    if_neg hentries]

/-! ### A descriptor with a control sequence -/

theorem eq_ok_of_toOption {ε α : Type} {x : Except ε α} {a : α} (h : x.toOption = some a) :
    x = .ok a := by
  cases x with
  | error e => cases h
  | ok b => exact congrArg Except.ok (Option.some.inj h)

theorem parse_coloured (name : Option String) :
    Descriptor.parse name "\x7b\"imports\":[\"\\u001b[0ma\"]\x7d"
      = .ok { definition := { imports := ["\x1b[0ma"] } } := by
  have hparse : (Descriptor.parse none "\x7b\"imports\":[\"\\u001b[0ma\"]\x7d").toOption
      = some { definition := { imports := ["\x1b[0ma"] } } := by decide +kernel
  exact Descriptor.parse_name (eq_ok_of_toOption hparse)

theorem readText_coloured :
    (FileTree.mk [(["d.json"],
      .file (Text.encode "\x7b\"imports\":[\"\\u001b[0ma\"]\x7d"))] []).readText ⟨[], ["d.json"]⟩
      = .ok "\x7b\"imports\":[\"\\u001b[0ma\"]\x7d" :=
  eq_ok_of_toOption (by decide +kernel)

theorem accepted_coloured :
    Accepted .strict "lib" "\x7b\"imports\":[\"\\u001b[0ma\"]\x7d" ⟨"lib", []⟩
      { definition := { imports := ["\x1b[0ma"] } } [] := by
  refine ⟨by cbv, parse_coloured _, rfl, fun _ e he => ?_⟩
  obtain rfl := List.mem_singleton.1 he
  cbv

/-- The code that is written to a file holds a control sequence that is part of an import; a call
with text behind a quoted value is refused. -/
theorem runInject_outcome_written :
    let text := "\x7b\"imports\":[\"\\u001b[0ma\"]\x7d"
    let files : FileTree := ⟨[(["d.json"], .file (Text.encode text))], []⟩
    let after := runInject none files "lib" ⟨[], ["d.json"]⟩ .strict (some ⟨[], ["o"]⟩)
    files.readText ⟨[], ["d.json"]⟩ = .ok text ∧
      (∀ name digits,
        Descriptor.parse (some name) text ≠ .error (.oversizedInteger digits)) ∧
      after.ending = .ok ⟨0, "INFO: wrote o\n"⟩ ∧
      after.files.read ⟨[], ["o"]⟩ = .ok (Text.encode "import \x1b[0ma\n") ∧
      ∃ output, (runInject none files "lib(\"a\" b)" ⟨[], ["d.json"]⟩ .strict none).ending
        = .ok ⟨2, output⟩ := by
  have hsize : ∀ name digits,
      Descriptor.parse (some name) "\x7b\"imports\":[\"\\u001b[0ma\"]\x7d"
        ≠ .error (.oversizedInteger digits) := by
    intro name digits h
    cases h.symm.trans (parse_coloured (some name))
  obtain ⟨-, -, -, -, haccepted⟩ := runInject_outcome none _ "lib" ⟨[], ["d.json"]⟩ .strict
    (some ⟨[], ["o"]⟩) readText_coloured hsize
  obtain ⟨-, -, hcode⟩ := haccepted _ _ _ accepted_coloured
  obtain ⟨code, hinjection, -, hwritten⟩ := hcode (by decide)
  have hcoloured : Definition.injectionOf .strict (some []) { imports := ["\x1b[0ma"] }
      = .ok (some "import \x1b[0ma\n") := eq_ok_of_toOption (by decide +kernel)
  obtain rfl := Option.some.inj (Except.ok.inj (hinjection.symm.trans hcoloured))
  obtain ⟨hending, hread⟩ := hwritten _ rfl (eq_ok_of_toOption (by decide +kernel))
  have hrefused := runInject_outcome none _ "lib(\"a\" b)" ⟨[], ["d.json"]⟩ .strict none
    readText_coloured hsize
  have hunread : Call.parse .round "lib(\"a\" b)" = .error ⟨'b', 4, "\"a\" b"⟩ := by cbv
  dsimp only
  exact ⟨readText_coloured, hsize, hending, hread, hrefused.2.1.2 ⟨_, .call hunread⟩⟩

/-- **What is put out is not always the code**: a control sequence in an import is lost. -/
theorem runInject_not_verbatim :
    let text := "\x7b\"imports\":[\"\\u001b[0ma\"]\x7d"
    let files : FileTree := ⟨[(["d.json"], .file (Text.encode text))], []⟩
    let d : Descriptor := { definition := { imports := ["\x1b[0ma"] } }
    files.readText ⟨[], ["d.json"]⟩ = .ok text ∧
      Accepted .strict "lib" text ⟨"lib", []⟩ d [] ∧
      d.definition.injectionOf .strict (some []) = .ok (some "import \x1b[0ma\n") ∧
      (runInject none files "lib" ⟨[], ["d.json"]⟩ .strict none).ending = .ok ⟨0, "import a\n"⟩ ∧
      "import a\n" ≠ "import \x1b[0ma\n" := by
  dsimp only
  exact ⟨readText_coloured, accepted_coloured, eq_ok_of_toOption (by decide +kernel),
    eq_ok_of_toOption (by decide +kernel), by decide⟩

end LibraryCalls.CommandLine
