import LibraryCalls.Resolution

/-!
# The stages of a resolution

A resolution reads and binds the call, collects the definitions, and builds their code.  It ends at
the first stage that fails.

A resolution is written as a sequence with an event at its end.  Taking it apart once, into binding,
collecting and building, gives a lemma that all statements about resolutions start from, so that
none of them unfolds the definition again.  If the stages of a resolution change, this module is the
one to be changed first.

Binding a call is not tied to a host and leaves no steps.  Its faults come first: a call that cannot
be read, an unknown library, arguments that do not fit.  The text of a call matters through the
outcome of binding only.

* `bindCall_eq_ok_iff`: what it takes to bind a call;
* `bindCall_ne_unresolved`: binding looks at no placeholder;
* `resolve_eq`: a resolution in terms of its stages, with the steps that each leaves;
* `outcome_resolve_eq_ok_iff`: what it takes to resolve a call;
* `resolve_congr`: two texts that bind alike are resolved alike.
-/

namespace LibraryCalls

open Resolution

variable {descriptors : Assoc String Descriptor} {text : String}

/-- **Binding a call**: it is read, the library it names is known, and its arguments fit. -/
theorem Resolution.bindCall_eq_ok_iff {name : String} {descriptor : Descriptor}
    {values : Assoc String String} :
    bindCall descriptors text = .ok (name, descriptor, values) ↔
      ∃ arguments, Call.parse .round text = .ok ⟨name, arguments⟩ ∧
        descriptors.get? name = some descriptor ∧
        bindArguments name descriptor.parameters arguments = .ok values := by
  constructor
  · intro h
    rw [bindCall] at h
    cases hp : Call.parse .round text with
    | error e => simp [hp] at h
    | ok call =>
      cases hd : descriptors.get? call.name with
      | none => simp [hp, hd] at h
      | some found =>
        cases hb : bindArguments call.name found.parameters call.arguments with
        | error e => simp [hp, hd, hb] at h
        | ok bound =>
          obtain ⟨rfl, rfl, rfl⟩ : call.name = name ∧ found = descriptor ∧ bound = values := by
            simpa [hp, hd, hb] using h
          exact ⟨call.arguments, rfl, hd, hb⟩
  · rintro ⟨arguments, hp, hd, hb⟩
    rw [bindCall, hp]
    simp only [hd, hb]

theorem Resolution.bindCall_ne_unresolved (u : Placeholder.Unresolved) :
    bindCall descriptors text ≠ .error (.unresolved u) := by
  rw [bindCall]
  cases Call.parse .round text with
  | error e => simp
  | ok call =>
    cases hd : descriptors.get? call.name with
    | none => simp [hd]
    | some descriptor =>
      simp only [hd]
      cases bindArguments call.name descriptor.parameters call.arguments <;> simp

/-- **A resolution by its stages.** -/
theorem resolve_eq (descriptors : Assoc String Descriptor) (host : Option Host)
    (extra : List Producer) (policy : Policy) (text : String) :
    resolve descriptors host extra policy text =
      match bindCall descriptors text with
      | .error e => ⟨[], .error e⟩
      | .ok (name, descriptor, values) =>
        let run := collect host (.ready descriptor.definition :: extra)
        match run.outcome with
        | .error e => ⟨run.steps, .error (.host e)⟩
        | .ok definitions =>
          match injections policy values definitions with
          | .error u => ⟨run.steps, .error (.unresolved u)⟩
          | .ok code =>
            ⟨run.steps ++ [.event (.libraryResolved name definitions.length code.length)],
              .ok ⟨name, values, definitions, code⟩⟩ := by
  rw [resolve, Traced.bind_eq, Traced.ofExcept]
  cases bindCall descriptors text with
  | error e => rfl
  | ok bound =>
    obtain ⟨name, descriptor, values⟩ := bound
    simp only [List.nil_append]
    rw [Traced.bind_eq]
    cases hc : (collect host (.ready descriptor.definition :: extra)).outcome with
    | error e => rw [Traced.mapError_of_error hc]
    | ok definitions =>
      rw [Traced.mapError_of_ok hc]
      simp only
      rw [Traced.bind_eq, Traced.ofExcept]
      cases injections policy values definitions with
      | error u => exact congrArg (Traced.mk · _) (List.append_nil _)
      | ok code => rfl

/-- **Resolving a call**: it is bound, and the definitions are collected and their code built. -/
theorem outcome_resolve_eq_ok_iff {host : Option Host} {extra : List Producer} {policy : Policy}
    {r : Resolved} :
    (resolve descriptors host extra policy text).outcome = .ok r ↔
      ∃ descriptor, bindCall descriptors text = .ok (r.name, descriptor, r.arguments) ∧
        (collect host (.ready descriptor.definition :: extra)).outcome = .ok r.definitions ∧
        injections policy r.arguments r.definitions = .ok r.initCode := by
  rw [resolve_eq]
  constructor
  · intro h
    cases hb : bindCall descriptors text with
    | error e => simp [hb] at h
    | ok bound =>
      obtain ⟨name, descriptor, values⟩ := bound
      cases hc : (collect host (.ready descriptor.definition :: extra)).outcome with
      | error e => simp [hb, hc] at h
      | ok definitions =>
        cases hi : injections policy values definitions with
        | error u => simp [hb, hc, hi] at h
        | ok code =>
          obtain rfl : ⟨name, values, definitions, code⟩ = r := by simpa [hb, hc, hi] using h
          exact ⟨descriptor, rfl, hc, hi⟩
  · rintro ⟨descriptor, hb, hc, hi⟩
    simp only [hb, hc, hi]

/-- A text is looked at only to bind the call. -/
theorem resolve_congr {other : String} (h : bindCall descriptors text = bindCall descriptors other)
    (host : Option Host) (extra : List Producer) (policy : Policy) :
    resolve descriptors host extra policy text = resolve descriptors host extra policy other := by
  rw [resolve, resolve, h]

end LibraryCalls
