import LibraryCalls.Proofs.Resolution.Policies

/-!
# Which fault is met first, and when the host is asked

A resolution looks at the call before it asks anything of the host: a call that cannot be read, that
names no known library, or whose arguments do not fit leaves the host alone.  The library's own
definition needs no host either, so that the requests are those of the extra producers, and a host
that gives up is noticed before any placeholder is.

The stages of a resolution come in a fixed order, and each is entered only if those before it
succeed.  What the order means for the host is that a fault in the call costs nothing: the steps of
such a run are empty.  For a call that binds the requests are those of the extra producers alone,
which come before any code is built; so a fault of a placeholder is met after the host has done all
of its work.

Several calls are resolved one after another, and the first fault ends the run, which leaves out the
requests of all later calls.

* `Error.ofCall`: the faults that lie in the call;
* `bindCall_cases`: the four ways in which binding a call can end;
* `collect_ready`: a definition at hand is collected without a request;
* `resolve_of_bindCall_error`, `resolve_bound_cases`: a resolution whose call does not bind, and one
  whose call does;
* `outcome_resolveEach_eq_ok_iff`, `outcome_resolveEach_eq_error_iff`: several calls, one after
  another;
* `resolve_fault_order`: the fault of a resolution, its result, and its requests, and those of
  several.
-/

namespace LibraryCalls

open Resolution Placeholder

variable {descriptors : Assoc String Descriptor} {host : Option Host} {extra : List Producer}
  {policy : Policy} {text : String}

/-! ### Faults of the call -/

/-- Whether a fault lies in the call and not in what is collected for it. -/
def Resolution.Error.ofCall : Error → Bool
  | .call _ | .unknownLibrary _ | .binding _ => true
  | .host _ | .unresolved _ => false

/-- **Binding a call** ends with the first of three faults, or with the values bound. -/
theorem Resolution.bindCall_cases (descriptors : Assoc String Descriptor) (text : String) :
    (∃ e, Call.parse .round text = .error e ∧ bindCall descriptors text = .error (.call e)) ∨
      (∃ call, Call.parse .round text = .ok call ∧ descriptors.get? call.name = none ∧
        bindCall descriptors text = .error (.unknownLibrary call.name)) ∨
      (∃ call descriptor e, Call.parse .round text = .ok call ∧
        descriptors.get? call.name = some descriptor ∧
        bindArguments call.name descriptor.parameters call.arguments = .error e ∧
        bindCall descriptors text = .error (.binding e)) ∨
      (∃ call descriptor values, Call.parse .round text = .ok call ∧
        descriptors.get? call.name = some descriptor ∧
        bindArguments call.name descriptor.parameters call.arguments = .ok values ∧
        bindCall descriptors text = .ok (call.name, descriptor, values)) := by
  rw [bindCall]
  cases Call.parse .round text with
  | error e => exact .inl ⟨e, rfl, rfl⟩
  | ok call =>
    cases hd : descriptors.get? call.name with
    | none => exact .inr (.inl ⟨call, rfl, hd, by simp only [hd]⟩)
    | some descriptor =>
      cases hb : bindArguments call.name descriptor.parameters call.arguments with
      | error e =>
        exact .inr (.inr (.inl ⟨call, descriptor, e, rfl, hd, hb, by simp only [hd, hb]⟩))
      | ok values =>
        exact .inr (.inr (.inr ⟨call, descriptor, values, rfl, hd, hb, by simp only [hd, hb]⟩))

theorem Resolution.ofCall_of_bindCall {e : Error} (h : bindCall descriptors text = .error e) :
    e.ofCall = true := by
  rcases bindCall_cases descriptors text with
    ⟨_, -, hb⟩ | ⟨_, -, -, hb⟩ | ⟨_, _, _, -, -, -, hb⟩ | ⟨_, _, _, -, -, -, hb⟩
  · cases h.symm.trans hb
    rfl
  · cases h.symm.trans hb
    rfl
  · cases h.symm.trans hb
    rfl
  · cases h.symm.trans hb

theorem Resolution.bindCall_eq_call_iff {e : Call.SyntaxError} :
    bindCall descriptors text = .error (.call e) ↔ Call.parse .round text = .error e := by
  rcases bindCall_cases descriptors text with
    ⟨_, hp, hb⟩ | ⟨_, hp, -, hb⟩ | ⟨_, _, _, hp, -, -, hb⟩ | ⟨_, _, _, hp, -, -, hb⟩
  all_goals simp [hp, hb]

/-- A call names no known library, whatever its arguments. -/
theorem Resolution.bindCall_eq_unknownLibrary_iff {name : String} :
    bindCall descriptors text = .error (.unknownLibrary name) ↔
      ∃ arguments, Call.parse .round text = .ok ⟨name, arguments⟩ ∧
        descriptors.get? name = none := by
  constructor
  · intro h
    rcases bindCall_cases descriptors text with
      ⟨_, -, hb⟩ | ⟨call, hp, hd, hb⟩ | ⟨_, _, _, -, -, -, hb⟩ | ⟨_, _, _, -, -, -, hb⟩
    · cases hb.symm.trans h
    · cases hb.symm.trans h
      exact ⟨call.arguments, hp, hd⟩
    · cases hb.symm.trans h
    · cases hb.symm.trans h
  · rintro ⟨arguments, hp, hd⟩
    rw [bindCall, hp]
    simp only [hd]

/-- The arguments of a call do not fit the library it names. -/
theorem Resolution.bindCall_eq_binding_iff {e : Binding.Error} :
    bindCall descriptors text = .error (.binding e) ↔
      ∃ call descriptor, Call.parse .round text = .ok call ∧
        descriptors.get? call.name = some descriptor ∧
        bindArguments call.name descriptor.parameters call.arguments = .error e := by
  constructor
  · intro h
    rcases bindCall_cases descriptors text with
      ⟨_, -, hb⟩ | ⟨_, -, -, hb⟩ | ⟨call, descriptor, _, hp, hd, he, hb⟩ | ⟨_, _, _, -, -, -, hb⟩
    · cases hb.symm.trans h
    · cases hb.symm.trans h
    · cases hb.symm.trans h
      exact ⟨call, descriptor, hp, hd, he⟩
    · cases hb.symm.trans h
  · rintro ⟨call, descriptor, hp, hd, he⟩
    rw [bindCall, hp]
    simp only [hd, he]

/-! ### Collecting -/

/-- A definition at hand is put before what is collected, and nothing is asked for it. -/
theorem collect_ready (host : Option Host) (d : Definition) (extra : List Producer) :
    collect host (.ready d :: extra) =
      ⟨(collect host extra).steps, (collect host extra).outcome.map (d :: ·)⟩ := by
  have hproduce : (Producer.ready d).produce host = pure [d] := by
    cases host with
    | none => rfl
    | some host => rw [Producer.produce, Producer.produceWithin]
  rw [collect_cons, hproduce, Traced.pure_bind, Traced.bind_eq]
  cases (collect host extra).outcome with
  | error e => rfl
  | ok found => exact congrArg (Traced.mk · _) (List.append_nil _)

/-! ### Building the code -/

/-- What it takes to build the code of several definitions, and what the code is. -/
theorem Resolution.injections_eq_ok_iff {values : Assoc String String} {ds : List Definition}
    {code : List String} :
    injections policy values ds = .ok code ↔
      code = fragments values ds ∧
        (policy = .strict →
          ∀ entry ∈ ds.flatMap Definition.entries, missing values entry = []) := by
  cases policy with
  | lenient =>
    rw [injections_lenient, Except.ok.injEq, eq_comm]
    exact (and_iff_left nofun).symm
  | strict =>
    rw [injections_strict, injections_lenient]
    cases hf : (ds.flatMap Definition.entries).findSome? (unresolved? values) with
    | none =>
      rw [List.findSome?_eq_none_iff] at hf
      have hmissing : ∀ entry ∈ ds.flatMap Definition.entries, missing values entry = [] :=
        fun entry hentry => by simpa [unresolved?] using hf entry hentry
      rw [Option.elim, Except.ok.injEq, eq_comm]
      exact (and_iff_left fun _ => hmissing).symm
    | some u =>
      obtain ⟨before, entry, after, hds, -, hentry, -⟩ :=
        findSome?_unresolved?_eq_some_iff.1 hf
      refine iff_of_false (by simp) fun h => hentry (h.2 rfl entry ?_)
      rw [hds]
      simp

/-! ### One call -/

/-- A call that does not bind is not resolved, and leaves no step. -/
theorem resolve_of_bindCall_error {e : Error} (h : bindCall descriptors text = .error e) :
    resolve descriptors host extra policy text = ⟨[], .error e⟩ := by
  rw [resolve_eq, h]

/-- A call that binds asks the host for what the extra producers ask. -/
theorem calls_resolve_of_bindCall_ok {name : String} {descriptor : Descriptor}
    {values : Assoc String String}
    (h : bindCall descriptors text = .ok (name, descriptor, values)) :
    Host.calls (resolve descriptors host extra policy text).steps
      = Host.calls (collect host extra).steps := by
  rw [calls_resolve, h]
  simp only [collect_ready]

/-- **A call that binds** ends in one of three ways: the extra producers fail, the code cannot be
built, or it is resolved. -/
theorem resolve_bound_cases (host : Option Host) (extra : List Producer) (policy : Policy)
    {name : String} {descriptor : Descriptor} {values : Assoc String String}
    (h : bindCall descriptors text = .ok (name, descriptor, values)) :
    (∃ e, (collect host extra).outcome = .error e ∧
        (resolve descriptors host extra policy text).outcome = .error (.host e)) ∨
      (∃ found u, (collect host extra).outcome = .ok found ∧
        injections policy values (descriptor.definition :: found) = .error u ∧
        (resolve descriptors host extra policy text).outcome = .error (.unresolved u)) ∨
      (∃ found code, (collect host extra).outcome = .ok found ∧
        injections policy values (descriptor.definition :: found) = .ok code ∧
        (resolve descriptors host extra policy text).outcome
          = .ok ⟨name, values, descriptor.definition :: found, code⟩) := by
  rw [resolve_eq, h]
  simp only [collect_ready]
  cases (collect host extra).outcome with
  | error e => exact .inl ⟨e, rfl, rfl⟩
  | ok found =>
    simp only [Except.map]
    cases hi : injections policy values (descriptor.definition :: found) with
    | error u => exact .inr (.inl ⟨found, u, rfl, hi, rfl⟩)
    | ok code => exact .inr (.inr ⟨found, code, rfl, hi, rfl⟩)

/-- A fault of the call is the fault of the resolution, and no other fault is one of the call. -/
theorem outcome_resolve_eq_error_iff_of_ofCall {e : Error} (he : e.ofCall = true) :
    (resolve descriptors host extra policy text).outcome = .error e ↔
      bindCall descriptors text = .error e := by
  cases hb : bindCall descriptors text with
  | error e' => rw [resolve_of_bindCall_error hb, Except.error.injEq, Except.error.injEq]
  | ok bound =>
    obtain ⟨name, descriptor, values⟩ := bound
    refine iff_of_false (fun h => ?_) nofun
    rcases resolve_bound_cases host extra policy hb with
      ⟨_, -, ho⟩ | ⟨_, _, -, -, ho⟩ | ⟨_, _, -, -, ho⟩
    · cases ho.symm.trans h
      exact absurd he Bool.false_ne_true
    · cases ho.symm.trans h
      exact absurd he Bool.false_ne_true
    · cases ho.symm.trans h

/-- A host that gives up is the fault of every call that binds. -/
theorem outcome_resolve_eq_host_iff {e : Host.Error} :
    (resolve descriptors host extra policy text).outcome = .error (.host e) ↔
      (∃ bound, bindCall descriptors text = .ok bound) ∧
        (collect host extra).outcome = .error e := by
  cases hb : bindCall descriptors text with
  | error e' =>
    rw [resolve_of_bindCall_error hb]
    refine iff_of_false (fun h => ?_) (by simp)
    cases h
    exact absurd (ofCall_of_bindCall hb) Bool.false_ne_true
  | ok bound =>
    obtain ⟨name, descriptor, values⟩ := bound
    rcases resolve_bound_cases host extra policy hb with
      ⟨_, hc, ho⟩ | ⟨_, _, hc, -, ho⟩ | ⟨_, _, hc, -, ho⟩
    all_goals simp [hc, ho]

/-- A placeholder without a value is noticed only once everything has been collected. -/
theorem collected_of_unresolved {u : Unresolved}
    (h : (resolve descriptors host extra policy text).outcome = .error (.unresolved u)) :
    ∃ found, (collect host extra).outcome = .ok found := by
  cases hb : bindCall descriptors text with
  | error e =>
    rw [resolve_of_bindCall_error hb] at h
    cases h
    exact absurd hb (bindCall_ne_unresolved u)
  | ok bound =>
    obtain ⟨name, descriptor, values⟩ := bound
    rcases resolve_bound_cases host extra policy hb with
      ⟨_, -, ho⟩ | ⟨found, _, hc, -, -⟩ | ⟨_, _, -, -, ho⟩
    · cases ho.symm.trans h
    · exact ⟨found, hc⟩
    · cases ho.symm.trans h

/-- **Resolving a call**, in terms of what the extra producers yield. -/
theorem outcome_resolve_eq_ok_iff_collect {r : Resolved} :
    (resolve descriptors host extra policy text).outcome = .ok r ↔
      ∃ descriptor found, bindCall descriptors text = .ok (r.name, descriptor, r.arguments) ∧
        (collect host extra).outcome = .ok found ∧
        r.definitions = descriptor.definition :: found ∧
        r.initCode = fragments r.arguments r.definitions ∧
        (policy = .strict →
          ∀ entry ∈ r.definitions.flatMap Definition.entries, missing r.arguments entry = []) := by
  rw [outcome_resolve_eq_ok_iff]
  simp only [collect_ready, injections_eq_ok_iff]
  constructor
  · rintro ⟨descriptor, hb, hc, hcode⟩
    cases hf : (collect host extra).outcome with
    | error e => simp [hf, Except.map] at hc
    | ok found =>
      rw [hf] at hc
      exact ⟨descriptor, found, hb, rfl, (Except.ok.inj hc).symm, hcode⟩
  · rintro ⟨descriptor, found, hb, hf, hds, hcode⟩
    refine ⟨descriptor, hb, ?_, hcode⟩
    rw [hf, hds]
    rfl

/-! ### Several calls -/

theorem resolveEach_cons (text : String) (rest : List String) :
    resolveEach descriptors host extra policy (text :: rest) =
      resolve descriptors host extra policy text >>= fun resolved =>
        resolveEach descriptors host extra policy rest >>= fun others =>
          pure (resolved :: others) := rfl

/-- **Several calls are resolved** when each is, to the results in order. -/
theorem outcome_resolveEach_eq_ok_iff {texts : List String} {rs : List Resolved} :
    (resolveEach descriptors host extra policy texts).outcome = .ok rs ↔
      texts.map (fun t => (resolve descriptors host extra policy t).outcome) = rs.map .ok := by
  induction texts generalizing rs with
  | nil =>
    rw [resolveEach, Traced.outcome_pure, Except.ok.injEq, List.map_nil]
    cases rs <;> simp
  | cons text rest ih =>
    rw [resolveEach_cons, Traced.outcome_bind_eq_ok_iff, List.map_cons]
    simp only [Traced.outcome_bind_eq_ok_iff, Traced.outcome_pure, Except.ok.injEq, ih]
    constructor
    · rintro ⟨r, hr, others, hothers, rfl⟩
      rw [hr, hothers, List.map_cons]
    · intro h
      cases rs with
      | nil => simp at h
      | cons r others =>
        obtain ⟨hr, hothers⟩ := List.cons.inj h
        exact ⟨r, hr, others, hothers, rfl⟩

/-- **Several calls fail** with the fault of the first that does. -/
theorem outcome_resolveEach_eq_error_iff {texts : List String} {e : Error} :
    (resolveEach descriptors host extra policy texts).outcome = .error e ↔
      ∃ before text after, texts = before ++ text :: after ∧
        (∀ t ∈ before, ∃ r, (resolve descriptors host extra policy t).outcome = .ok r) ∧
        (resolve descriptors host extra policy text).outcome = .error e := by
  induction texts with
  | nil =>
    refine iff_of_false (by simp [resolveEach]) ?_
    rintro ⟨before, text, after, h, -⟩
    simp at h
  | cons text rest ih =>
    rw [resolveEach_cons, Traced.outcome_bind_eq_error_iff]
    simp only [Traced.outcome_bind_eq_error_iff, Traced.outcome_pure, reduceCtorEq, and_false,
      exists_false, or_false, ih]
    constructor
    · rintro (he | ⟨r, hr, before, t, after, rfl, hbefore, he⟩)
      · exact ⟨[], text, rest, rfl, by simp, he⟩
      · exact ⟨text :: before, t, after, rfl, List.forall_mem_cons.2 ⟨⟨r, hr⟩, hbefore⟩, he⟩
    · rintro ⟨before, t, after, h, hbefore, he⟩
      cases before with
      | nil =>
        obtain ⟨rfl, -⟩ := List.cons.inj h
        exact .inl he
      | cons first before =>
        obtain ⟨rfl, hrest⟩ := List.cons.inj h
        obtain ⟨⟨r, hr⟩, hbefore⟩ := List.forall_mem_cons.1 hbefore
        exact .inr ⟨r, hr, before, t, after, hrest, hbefore, he⟩

/-- Without extra producers nothing is asked of the host. -/
theorem calls_resolve_nil (text : String) :
    Host.calls (resolve descriptors host [] policy text).steps = [] := by
  rw [calls_resolve]
  cases bindCall descriptors text with
  | error e => rfl
  | ok bound =>
    simp only [collect_ready]
    rfl

theorem calls_resolveAll (texts : List String) :
    Host.calls (resolveAll descriptors host policy texts).steps = [] := by
  rw [resolveAll]
  induction texts with
  | nil => rfl
  | cons text rest ih =>
    rw [resolveEach_cons, Traced.bind_eq]
    cases (resolve descriptors host [] policy text).outcome with
    | error e => exact calls_resolve_nil text
    | ok r =>
      rw [Host.calls_append, calls_resolve_nil, List.nil_append, Traced.bind_eq]
      cases (resolveEach descriptors host [] policy rest).outcome with
      | error e => exact ih
      | ok others => rw [Host.calls_append, ih]; rfl

/-! ### All together -/

/-- **Faults in their order, and requests.**  A call that cannot be read is faulty whatever
libraries are known, and a library that is unknown is noticed before the arguments are looked at;
these faults, and arguments that do not fit, leave the host alone.  Otherwise the host is asked for
what the extra producers ask, and for nothing else.  If it gives up, that is the fault, whatever
placeholders there are; if it does not, the definitions of a result are the library's own and those
collected, and its code has one fragment for each of them that has a repository, a dependency or an
import.

Several calls ask nothing of the host.  Their results come in order, and their fault is that of the
first call that has one. -/
theorem resolve_fault_order (descriptors : Assoc String Descriptor) (host : Option Host)
    (extra : List Producer) (policy : Policy) :
    (∀ text,
      let run := resolve descriptors host extra policy text
      (∀ e, run.outcome = .error (.call e) ↔ Call.parse .round text = .error e) ∧
      (∀ name, run.outcome = .error (.unknownLibrary name) ↔
        ∃ arguments, Call.parse .round text = .ok ⟨name, arguments⟩ ∧
          descriptors.get? name = none) ∧
      (∀ e, run.outcome = .error (.binding e) ↔
        ∃ call descriptor, Call.parse .round text = .ok call ∧
          descriptors.get? call.name = some descriptor ∧
          bindArguments call.name descriptor.parameters call.arguments = .error e) ∧
      (∀ e, run.outcome = .error e → e.ofCall = true → Host.calls run.steps = []) ∧
      ((∀ e, run.outcome = .error e → e.ofCall = false) →
        Host.calls run.steps = Host.calls (collect host extra).steps) ∧
      (∀ e, run.outcome = .error (.host e) ↔
        (∃ bound, bindCall descriptors text = .ok bound) ∧
          (collect host extra).outcome = .error e) ∧
      (∀ u, run.outcome = .error (.unresolved u) →
        ∃ found, (collect host extra).outcome = .ok found) ∧
      (∀ r, run.outcome = .ok r ↔
        ∃ descriptor found, bindCall descriptors text = .ok (r.name, descriptor, r.arguments) ∧
          (collect host extra).outcome = .ok found ∧
          r.definitions = descriptor.definition :: found ∧
          r.initCode = fragments r.arguments r.definitions ∧
          (policy = .strict → ∀ entry ∈ r.definitions.flatMap Definition.entries,
            missing r.arguments entry = []))) ∧
    ∀ texts,
      let run := resolveAll descriptors host policy texts
      Host.calls run.steps = [] ∧
      (∀ rs, run.outcome = .ok rs ↔
        texts.map (fun t => (resolve descriptors host [] policy t).outcome) = rs.map .ok) ∧
      (∀ e, run.outcome = .error e ↔
        ∃ before text after, texts = before ++ text :: after ∧
          (∀ t ∈ before, ∃ r, (resolve descriptors host [] policy t).outcome = .ok r) ∧
          (resolve descriptors host [] policy text).outcome = .error e) := by
  refine ⟨fun text => ⟨fun e => ?_, fun name => ?_, fun e => ?_, fun e he hcall => ?_,
    fun hnot => ?_, fun e => outcome_resolve_eq_host_iff, fun u => collected_of_unresolved,
    fun r => outcome_resolve_eq_ok_iff_collect⟩, fun texts => ⟨calls_resolveAll texts,
    fun rs => outcome_resolveEach_eq_ok_iff, fun e => outcome_resolveEach_eq_error_iff⟩⟩
  · exact (outcome_resolve_eq_error_iff_of_ofCall rfl).trans bindCall_eq_call_iff
  · exact (outcome_resolve_eq_error_iff_of_ofCall rfl).trans bindCall_eq_unknownLibrary_iff
  · exact (outcome_resolve_eq_error_iff_of_ofCall rfl).trans bindCall_eq_binding_iff
  · rw [resolve_of_bindCall_error ((outcome_resolve_eq_error_iff_of_ofCall hcall).1 he)]
    rfl
  · cases hb : bindCall descriptors text with
    | error e =>
      have hcall := ofCall_of_bindCall hb
      have hfault : (resolve descriptors host extra policy text).outcome = .error e :=
        (outcome_resolve_eq_error_iff_of_ofCall hcall).2 hb
      exact absurd hcall (by rw [hnot e hfault]; exact Bool.false_ne_true)
    | ok bound =>
      obtain ⟨name, descriptor, values⟩ := bound
      exact calls_resolve_of_bindCall_ok hb

/-- A host that knows no result is asked, and gives up before the placeholder of the library is
noticed; two calls of which the second has no library fail with its fault. -/
theorem resolve_fault_order_host :
    let definition : Definition := ⟨["$\x7bx\x7d"], [], [], [], [], []⟩
    let descriptors : Assoc String Descriptor := [("lib", ⟨none, none, none, [], definition⟩)]
    let host : Option Host := some { results := [] }
    let extra : List Producer := [.resolving ["prepare"] ["code"]]
    (resolve descriptors host extra .strict "lib").outcome = .error (.host (.noResult "code")) ∧
      Host.calls (resolve descriptors host extra .strict "lib").steps
        = [.prepare ["prepare"], .execute "code"] ∧
      (resolve descriptors host extra .strict "other").outcome
        = .error (.unknownLibrary "other") ∧
      Host.calls (resolve descriptors host extra .strict "other").steps = [] ∧
      (resolveAll descriptors host .lenient ["lib", "other"]).outcome
        = .error (.unknownLibrary "other") := by
  intro definition descriptors host extra
  have hparse : Call.parse .round "lib" = .ok ⟨"lib", []⟩ := by cbv
  have hother : Call.parse .round "other" = .ok ⟨"other", []⟩ := by cbv
  have hbind : bindCall descriptors "lib"
      = .ok ("lib", ⟨none, none, none, [], definition⟩, []) :=
    bindCall_eq_ok_iff.2 ⟨[], hparse, rfl, rfl⟩
  have horder := resolve_fault_order descriptors host extra .strict
  obtain ⟨-, -, -, -, hasked, hhost, -, -⟩ := horder.1 "lib"
  obtain ⟨-, hunknown, -, hisolated, -, -, -, -⟩ := horder.1 "other"
  have hfails : (resolve descriptors host extra .strict "lib").outcome
      = .error (.host (.noResult "code")) := (hhost _).2 ⟨⟨_, hbind⟩, rfl⟩
  have hmissing : (resolve descriptors host extra .strict "other").outcome
      = .error (.unknownLibrary "other") := (hunknown _).2 ⟨[], hother, rfl⟩
  refine ⟨hfails, ?_, hmissing, hisolated _ hmissing rfl, ?_⟩
  · rw [hasked fun e he => ?_]
    · rfl
    · cases hfails.symm.trans he
      rfl
  · -- without the extra producers the first call is resolved, under the lenient policy
    have hseveral := resolve_fault_order descriptors host [] .lenient
    obtain ⟨-, -, -, -, -, -, -, hok⟩ := hseveral.1 "lib"
    obtain ⟨-, hunknown, -, -, -, -, -, -⟩ := hseveral.1 "other"
    have hresolved : ∃ r, (resolve descriptors host [] .lenient "lib").outcome = .ok r :=
      ⟨⟨"lib", [], [definition], fragments [] [definition]⟩,
        (hok _).2 ⟨_, [], hbind, rfl, rfl, rfl, fun hstrict => by cases hstrict⟩⟩
    exact ((hseveral.2 ["lib", "other"]).2.2 _).2 ⟨["lib"], "other", [], rfl,
      List.forall_mem_singleton.2 hresolved, (hunknown _).2 ⟨[], hother, rfl⟩⟩

end LibraryCalls
