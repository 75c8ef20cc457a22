import LibraryCalls.Proofs.Host.Record
import LibraryCalls.Proofs.Library.Injection
import LibraryCalls.Proofs.Resolution.Stages

/-!
# Resolving under the two policies

The policy matters only for the last stage of a resolution, in which the code is built: the lenient
policy always builds it, and the strict one builds the same code or refuses an entry.

Both resolutions of a call collect the same definitions by the same requests, since the policy is
not looked at before.  Then each definition that has a repository, a dependency or an import has its
code built, in order.  The lenient policy never fails there.  The strict one fails with the first
entry, definition by definition, that holds a placeholder without a value, and otherwise builds what
the lenient one builds.

So three endings are possible for the pair, and the one in which they differ is described by the
first entry that the values of the call leave open.

* `fragments`, `injections_lenient`, `injections_strict`: the code of several definitions under each
  policy;
* `calls_resolve`: what is asked of the host, whatever the policy;
* `resolve_policies_cases`: the three ways in which the two resolutions of a call can end;
* `resolve_policies`: how the two resolutions of a call compare.
-/

namespace LibraryCalls

open Resolution Placeholder

namespace Resolution

variable (values : Assoc String String)

/-- The code of the definitions that have a repository, a dependency or an import, in order. -/
def fragments (ds : List Definition) : List String :=
  (ds.filter fun d => d.entries ≠ []).map fun d => Definition.code (d.filled values)

/-- The lenient policy builds the code of every list of definitions. -/
theorem injections_lenient (ds : List Definition) :
    injections .lenient values ds = .ok (fragments values ds) := by
  induction ds with
  | nil => rfl
  | cons d rest ih =>
    rw [injections, Definition.injection_lenient, ih]
    by_cases h : d.entries = []
    · simp [fragments, h, Except.map]
    · simp [fragments, h, Except.map]

/-- **The strict policy on several definitions**: the first entry that it refuses, definition by
definition, ends the run. -/
theorem injections_strict (ds : List Definition) :
    injections .strict values ds
      = ((ds.flatMap Definition.entries).findSome? (unresolved? values)).elim
          (injections .lenient values ds) .error := by
  induction ds with
  | nil => rfl
  | cons d rest ih =>
    rw [injections, Definition.injection_strict, List.flatMap_cons, List.findSome?_append]
    cases d.entries.findSome? (unresolved? values) with
    | some u => rfl
    | none =>
      rw [injections, Definition.injection_lenient, ih, Option.none_or]
      cases (rest.flatMap Definition.entries).findSome? (unresolved? values) <;> rfl

end Resolution

/-- Why the strict policy refuses what the lenient one has resolved, if it does. -/
def Resolved.refused (r : Resolved) : Option Unresolved :=
  (r.definitions.flatMap Definition.entries).findSome? (unresolved? r.arguments)

variable (descriptors : Assoc String Descriptor) (host : Option Host) (extra : List Producer)
  (text : String)

/-- The last stage asks nothing of the host, and no other stage looks at the policy. -/
theorem calls_resolve (policy : Policy) :
    Host.calls (resolve descriptors host extra policy text).steps =
      match bindCall descriptors text with
      | .error _ => []
      | .ok (_, descriptor, _) =>
        Host.calls (collect host (.ready descriptor.definition :: extra)).steps := by
  rw [resolve_eq]
  cases bindCall descriptors text with
  | error e => rfl
  | ok bound =>
    obtain ⟨name, descriptor, values⟩ := bound
    simp only
    cases (collect host (.ready descriptor.definition :: extra)).outcome with
    | error e => rfl
    | ok definitions =>
      simp only
      cases injections policy values definitions with
      | error u => rfl
      | ok code =>
        rw [Host.calls_append]
        exact List.append_nil _

/-- **How the two resolutions of a call can end**: with the same fault, with the same result, or
with a result that the strict policy refuses. -/
theorem resolve_policies_cases :
    (∃ e, (resolve descriptors host extra .lenient text).outcome = .error e ∧
        (resolve descriptors host extra .strict text).outcome = .error e ∧
        ∀ u, e ≠ .unresolved u) ∨
      (∃ r, (resolve descriptors host extra .lenient text).outcome = .ok r ∧
        (resolve descriptors host extra .strict text).outcome = .ok r ∧ r.refused = none) ∨
      (∃ r u, (resolve descriptors host extra .lenient text).outcome = .ok r ∧
        (resolve descriptors host extra .strict text).outcome = .error (.unresolved u) ∧
        r.refused = some u) := by
  rw [resolve_eq, resolve_eq]
  cases hb : bindCall descriptors text with
  | error e =>
    refine .inl ⟨e, rfl, rfl, ?_⟩
    rintro u rfl
    exact bindCall_ne_unresolved u hb
  | ok bound =>
    obtain ⟨name, descriptor, values⟩ := bound
    simp only
    cases (collect host (.ready descriptor.definition :: extra)).outcome with
    | error e => exact .inl ⟨.host e, rfl, rfl, by simp⟩
    | ok definitions =>
      simp only [injections_strict, injections_lenient]
      cases hf : (definitions.flatMap Definition.entries).findSome? (unresolved? values) with
      | none => exact .inr (.inl ⟨_, rfl, rfl, hf⟩)
      | some u => exact .inr (.inr ⟨_, u, rfl, rfl, hf⟩)

/-- **Resolving under the two policies.**  The host is asked for the same.  What the strict policy
resolves, the lenient one resolves to the same; any other fault than a placeholder without a value
is the fault of both, and the lenient policy never meets that one.  The strict policy meets it
exactly when the lenient one resolves the call and some entry of the definitions collected holds a
placeholder that is not among the arguments bound; it is the fault of the first such entry. -/
theorem resolve_policies :
    Host.calls (resolve descriptors host extra .strict text).steps
        = Host.calls (resolve descriptors host extra .lenient text).steps ∧
      (∀ r, (resolve descriptors host extra .strict text).outcome = .ok r →
        (resolve descriptors host extra .lenient text).outcome = .ok r) ∧
      (∀ e, (resolve descriptors host extra .strict text).outcome = .error e →
        (∀ u, e ≠ .unresolved u) →
        (resolve descriptors host extra .lenient text).outcome = .error e) ∧
      (∀ u, (resolve descriptors host extra .lenient text).outcome ≠ .error (.unresolved u)) ∧
      (∀ u, (resolve descriptors host extra .strict text).outcome = .error (.unresolved u) ↔
        ∃ r before entry after,
          (resolve descriptors host extra .lenient text).outcome = .ok r ∧
          r.definitions.flatMap Definition.entries = before ++ entry :: after ∧
          (∀ e ∈ before, missing r.arguments e = []) ∧
          missing r.arguments entry ≠ [] ∧ u = ⟨missing r.arguments entry, entry⟩) := by
  refine ⟨by rw [calls_resolve, calls_resolve], ?_⟩
  have hrefused : ∀ (r : Resolved) (u : Unresolved), r.refused = some u ↔
      ∃ before entry after, r.definitions.flatMap Definition.entries = before ++ entry :: after ∧
        (∀ e ∈ before, missing r.arguments e = []) ∧
        missing r.arguments entry ≠ [] ∧ u = ⟨missing r.arguments entry, entry⟩ :=
    fun r u => findSome?_unresolved?_eq_some_iff
  simp only [exists_and_left, ← hrefused]
  rcases resolve_policies_cases descriptors host extra text with
    ⟨e, hl, hs, hne⟩ | ⟨r, hl, hs, hr⟩ | ⟨r, u, hl, hs, hr⟩
  · -- both end with the same fault, which is no refusal
    rw [hl, hs]
    have hnot : ∀ u, (Except.error e : Except Error Resolved) ≠ .error (.unresolved u) :=
      fun u h => hne u (Except.error.inj h)
    refine ⟨by simp, fun e' h _ => h, hnot, fun u => iff_of_false (hnot u) (by simp)⟩
  · -- both end with the same result, in which nothing is refused
    rw [hl, hs]
    refine ⟨fun r' h => h, fun e' h _ => h, by simp, fun u => iff_of_false (by simp) ?_⟩
    rintro ⟨r', hr', hrefused'⟩
    rw [← Except.ok.inj hr', hr] at hrefused'
    simp at hrefused'
  · -- the strict policy refuses an entry of the result
    rw [hl, hs]
    refine ⟨by simp, ?_, by simp, fun u' => ⟨?_, ?_⟩⟩
    · intro e' h hne
      exact absurd (Except.error.inj h).symm (hne u)
    · intro h
      rw [← Error.unresolved.inj (Except.error.inj h)]
      exact ⟨r, rfl, hr⟩
    · rintro ⟨r', hr', hrefused'⟩
      rw [← Except.ok.inj hr', hr] at hrefused'
      rw [Option.some.inj hrefused']

/-- A dependency with a placeholder that is no parameter, behind a repository with one that is. -/
theorem resolve_policies_unbound :
    let definition : Definition := ⟨["r/$\x7ba\x7d"], ["g:$\x7bx\x7d"], [], [], [], []⟩
    let descriptors : Assoc String Descriptor :=
      [("lib", ⟨none, none, none, [("a", "1")], definition⟩)]
    let r : Resolved := ⟨"lib", [("a", "1")], [definition],
      ["@file:Repository(\"r/1\")\n@file:DependsOn(\"g:$\x7bx\x7d\")\n"]⟩
    (resolve descriptors none [] .lenient "lib").outcome = .ok r ∧
      (resolve descriptors none [] .strict "lib").outcome
        = .error (.unresolved ⟨["x"], "g:$\x7bx\x7d"⟩) := by
  intro definition descriptors r
  have hfill : Definition.fillStatements .lenient r.arguments definition.statements
      = .ok [.repository "r/1", .dependency "g:$\x7bx\x7d"] := by cbv
  have hcode : injections .lenient r.arguments r.definitions = .ok r.initCode := by
    rw [injections, Definition.injection, hfill]
    rfl
  have hbind : bindCall descriptors "lib"
      = .ok (r.name, ⟨none, none, none, [("a", "1")], definition⟩, r.arguments) :=
    bindCall_eq_ok_iff.2 ⟨[], by cbv, rfl, rfl⟩
  have hlenient : (resolve descriptors none [] .lenient "lib").outcome = .ok r :=
    outcome_resolve_eq_ok_iff.2 ⟨_, hbind, rfl, hcode⟩
  have hbefore : missing r.arguments "r/$\x7ba\x7d" = [] := by cbv
  have hentry : missing r.arguments "g:$\x7bx\x7d" = ["x"] := by cbv
  refine ⟨hlenient, ((resolve_policies descriptors none [] "lib").2.2.2.2 _).2 ?_⟩
  exact ⟨r, ["r/$\x7ba\x7d"], "g:$\x7bx\x7d", [], hlenient, rfl, by simpa using hbefore,
    by simp [hentry], by rw [hentry]⟩

end LibraryCalls
