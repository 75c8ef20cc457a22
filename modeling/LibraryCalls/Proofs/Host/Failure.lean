import LibraryCalls.Proofs.Host.Depth

/-!
# Hosts that fail

A run on a host that refuses more than another one is the run on that other one, stopped at the
first request that is refused.  This does not depend on how deep the request stands: a failure ends
every producer around it.

The comparison is between two runs, step by step: as long as no request is refused, the runs take
the same steps, and at the first refusal the second run stops with the refusal as its failure.
`Traced.Stopped` states this for any two computations, and since it is preserved by sequences it is
proved for a request and then follows for fragments, producers and collections by the recursion of
their definitions.

An impaired host may fail on more fragments but never answers differently, so results that are found
before the failure are the same on both.

* `Traced.Stopped`: a computation as it is, or stopped at its first failing step; sequences are
  stopped where their parts are (`Traced.Stopped.bind`);
* `Host.refusal?`: why a host refuses a request;
* `Host.Impairs`: hosts that answer like another one or not at all;
* `Producer.stopped_produceWithin`: a producer on an impaired host;
* `stopped_collect`, `collect_of_impairs`: a collection on an impaired host, its requests, its error
  and its definitions.
-/

namespace LibraryCalls

/-! ### Stopped computations -/

namespace Traced

variable {σ ε α β : Type} {failure? : σ → Option ε}

def error? (x : Traced σ ε α) : Option ε :=
  match x.outcome with
  | .ok _ => none
  | .error e => some e

/-- The computation `x` as it is, if none of its steps fails, or else with the failure of the first
failing step right after that step. -/
inductive Stopped (failure? : σ → Option ε) (x : Traced σ ε α) : Traced σ ε α → Prop
  | whole (passes : ∀ s ∈ x.steps, failure? s = none) : Stopped failure? x x
  | short {before after : List σ} {s : σ} {e : ε} (steps : x.steps = before ++ s :: after)
      (passes : ∀ t ∈ before, failure? t = none) (fails : failure? s = some e) :
      Stopped failure? x ⟨before ++ [s], .error e⟩

theorem Stopped.pure (a : α) : Stopped failure? (pure a : Traced σ ε α) (pure a) :=
  .whole fun _ hs => absurd hs List.not_mem_nil

theorem Stopped.fail (e : ε) : Stopped failure? (fail e : Traced σ ε α) (fail e) :=
  .whole fun _ hs => absurd hs List.not_mem_nil

theorem exists_steps_bind (x : Traced σ ε α) (f : α → Traced σ ε β) :
    ∃ later, (x >>= f).steps = x.steps ++ later := by
  cases h : x.outcome with
  | error e => exact ⟨[], by rw [steps_bind_error h, List.append_nil]⟩
  | ok a => exact ⟨(f a).steps, steps_bind_ok h f⟩

/-- Steps that pass can be put before a computation that is stopped. -/
theorem Stopped.prepend {x y : Traced σ ε α} (h : Stopped failure? x y) {steps : List σ}
    (hsteps : ∀ s ∈ steps, failure? s = none) :
    Stopped failure? ⟨steps ++ x.steps, x.outcome⟩ ⟨steps ++ y.steps, y.outcome⟩ := by
  cases h with
  | whole hpasses => exact .whole (List.forall_mem_append.2 ⟨hsteps, hpasses⟩)
  | @short before after s e hx hpasses hfails =>
    have hall : steps ++ x.steps = (steps ++ before) ++ s :: after := by
      rw [hx, List.append_assoc]
    rw [← List.append_assoc]
    exact .short hall (List.forall_mem_append.2 ⟨hsteps, hpasses⟩) hfails

theorem Stopped.prefix_steps {x y : Traced σ ε α} (h : Stopped failure? x y) :
    y.steps <+: x.steps := by
  cases h with
  | whole _ => exact List.prefix_rfl
  | @short before after s e hsteps _ _ => exact ⟨after, (hsteps.trans (List.append_cons ..)).symm⟩

theorem Stopped.outcome_eq_error {x y : Traced σ ε α} (h : Stopped failure? x y) {e : ε}
    (he : y.outcome = .error e) : x.outcome = .error e ∨ ∃ s, failure? s = some e := by
  cases h with
  | whole _ => exact .inl he
  | short _ _ hfails =>
    obtain rfl := Except.error.inj he
    exact .inr ⟨_, hfails⟩

/-- **A sequence is stopped where its parts are.** -/
theorem Stopped.bind {x y : Traced σ ε α} {f g : α → Traced σ ε β} (hx : Stopped failure? x y)
    (hf : ∀ a, Stopped failure? (f a) (g a)) : Stopped failure? (x >>= f) (y >>= g) := by
  cases hx with
  | @short before after s e hsteps hpasses hfails =>
    obtain ⟨later, hlater⟩ := exists_steps_bind x f
    rw [hsteps, List.append_assoc] at hlater
    exact .short hlater hpasses hfails
  | whole hpasses =>
    rw [bind_eq, bind_eq]
    cases x.outcome with
    | error e => exact .whole hpasses
    | ok a => exact (hf a).prepend hpasses

end Traced

/-! ### Requests that are refused -/

open Traced

namespace Host

def refusal? (host : Host) : HostCall → Option Error
  | .prepare codes => (host.prepare codes).error?
  | .execute code => (host.execute code).error?

/-- The failure of a step: that of the request that it is. -/
def failure? (host : Host) (s : Step) : Option Error :=
  s.call?.bind host.refusal?

/-- A host that answers like another one wherever it answers: some fragments of the other host may
yield nothing here, and more preparing fragments may fail. -/
structure Impairs (host' host : Host) : Prop where
  results : ∀ code, host'.results.get? code = none ∨
    host'.results.get? code = host.results.get? code
  failingInit : ∀ code ∈ host.failingInit, code ∈ host'.failingInit

variable {host host' : Host}

theorem failure?_eq_some_iff {s : Step} {e : Error} :
    host.failure? s = some e ↔ ∃ c, s = .call c ∧ host.refusal? c = some e := by
  cases s <;> simp [failure?, Step.call?]

/-- A host refuses nothing for its depth. -/
theorem failure?_ne_tooDeep {s : Step} : host.failure? s ≠ some .tooDeep := by
  rw [ne_eq, failure?_eq_some_iff]
  rintro ⟨c, -, hrefused⟩
  cases c with
  | prepare codes =>
    rw [refusal?, error?, Host.prepare] at hrefused
    cases hfind : codes.find? (· ∈ host.failingInit) <;> simp [hfind] at hrefused
  | execute code =>
    rw [refusal?, error?, Host.execute] at hrefused
    cases hget : host.results.get? code <;> simp [hget] at hrefused

theorem mem_calls {steps : List Step} {c : HostCall} : c ∈ calls steps ↔ .call c ∈ steps := by
  rw [calls, List.mem_filterMap]
  constructor
  · rintro ⟨s, hs, hcall⟩
    cases s with
    | call c' =>
      obtain rfl := Option.some.inj hcall
      exact hs
    | event e => cases hcall
  · exact fun hc => ⟨_, hc, rfl⟩

theorem stopped_report (e : Event) : Stopped host'.failure? (report e) (report e) := by
  refine .whole fun s hs => ?_
  rw [List.mem_singleton.1 hs]
  rfl

/-- A single request is stopped if it is refused, and must be answered in the same way otherwise. -/
theorem stopped_request {α : Type} {c : HostCall} {answer answer' : Except Error α}
    (hrefusal : host'.refusal? c = error? (⟨[.call c], answer'⟩ : Run α))
    (hsame : host'.refusal? c = none → answer = answer') :
    Stopped host'.failure? (⟨[.call c], answer⟩ : Run α) ⟨[.call c], answer'⟩ := by
  cases answer' with
  | error e =>
    rw [← List.nil_append [Step.call c]]
    exact .short rfl (fun t ht => absurd ht List.not_mem_nil) hrefusal
  | ok a =>
    obtain rfl := hsame hrefusal
    refine .whole fun s hs => ?_
    rw [List.mem_singleton.1 hs]
    exact hrefusal

theorem Impairs.stopped_prepare (h : host'.Impairs host) (codes : List String) :
    Stopped host'.failure? (host.prepare codes) (host'.prepare codes) := by
  refine stopped_request rfl fun hpasses => ?_
  have hnone : codes.find? (· ∈ host'.failingInit) = none := by
    rw [refusal?, Host.prepare, error?] at hpasses
    cases hfind : codes.find? (· ∈ host'.failingInit) with
    | none => rfl
    | some code =>
      rw [hfind] at hpasses
      cases hpasses
  have hnone' : codes.find? (· ∈ host.failingInit) = none := by
    rw [List.find?_eq_none] at hnone ⊢
    intro code hcode hfails
    exact hnone code hcode (decide_eq_true (h.failingInit code (of_decide_eq_true hfails)))
  rw [hnone, hnone']

theorem Impairs.stopped_execute (h : host'.Impairs host) (code : String) :
    Stopped host'.failure? (host.execute code) (host'.execute code) := by
  refine stopped_request rfl fun hpasses => ?_
  rcases h.results code with hnone | hsame
  · rw [refusal?, Host.execute, hnone] at hpasses
    cases hpasses
  · rw [hsame]

end Host

/-! ### Runs on an impaired host -/

open Host

variable {host host' : Host}

namespace Producer

/-- Fragments are stopped where the first request or nested producer is. -/
theorem stopped_runCodes (h : host'.Impairs host)
    {nested nested' : Producer → Run (List Definition)}
    (hnested : ∀ p, Stopped host'.failure? (nested p) (nested' p)) (codes : List String) :
    Stopped host'.failure? (runCodes host nested codes) (runCodes host' nested' codes) := by
  induction codes with
  | nil => exact .pure []
  | cons code rest ih =>
    rw [runCodes_cons, runCodes_cons]
    refine (h.stopped_execute code).bind fun result => .bind ?_ fun found =>
      ih.bind fun others => .pure (found ++ others)
    cases result with
    | definition d => exact .pure [d]
    | producer p => exact hnested p
    | other value => exact .pure []

/-- **A producer is stopped at the first request that is refused**, however deep that stands. -/
theorem stopped_produceWithin (h : host'.Impairs host) (depth : Nat) (p : Producer) :
    Stopped host'.failure? (produceWithin host depth p) (produceWithin host' depth p) := by
  induction depth generalizing p with
  | zero =>
    cases p with
    | ready d => exact .pure [d]
    | custom ds => exact .pure ds
    | resolving init codes => exact .fail Error.tooDeep
  | succ depth ih =>
    cases p with
    | ready d => exact .pure [d]
    | custom ds => exact .pure ds
    | resolving init codes =>
      rw [produceWithin, produceWithin]
      exact (h.stopped_prepare init).bind fun _ => (stopped_report _).bind fun _ =>
        (stopped_runCodes h ih codes).bind fun definitions =>
          (stopped_report _).bind fun _ => .pure definitions

end Producer

/-! ### Collecting on an impaired host -/

/-- At equal depths, a collection is stopped at the first request that is refused. -/
theorem stopped_collect_withDepth (h : host'.Impairs host) (depth : Nat)
    (producers : List Producer) :
    Stopped host'.failure? (collect (some { host with depth := depth }) producers)
      (collect (some { host' with depth := depth }) producers) := by
  induction producers with
  | nil => exact .pure []
  | cons p rest ih =>
    rw [collect_cons, collect_cons]
    refine .bind ?_ fun found => ih.bind fun others => .pure (found ++ others)
    rw [Producer.produce_withDepth, Producer.produce_withDepth]
    exact Producer.stopped_produceWithin h depth p

/-- A collection that ends is stopped at the first request that is refused.  Both hosts are compared
at a depth that is enough for either. -/
theorem stopped_collect (h : host'.Impairs host) (hdeep : host'.results.length < host'.depth)
    {producers : List Producer} {definitions : List Definition}
    (hok : (collect (some host) producers).outcome = .ok definitions) :
    Stopped host'.failure? (collect (some host) producers) (collect (some host') producers) := by
  let depth := max host.depth host'.depth
  have hrun : collect (some { host with depth := depth }) producers =
      collect (some host) producers :=
    collect_withDepth (le_max_left ..) fun he => by cases hok.symm.trans he
  have hstopped : Stopped host'.failure? (collect (some { host with depth := depth }) producers)
      (collect (some { host' with depth := depth }) producers) :=
    stopped_collect_withDepth h depth producers
  have hcut : (collect (some { host' with depth := depth }) producers).outcome ≠
      .error .tooDeep := by
    intro he
    rcases hstopped.outcome_eq_error he with hrun' | ⟨s, hs⟩
    · rw [hrun, hok] at hrun'
      cases hrun'
    · exact failure?_ne_tooDeep hs
  rwa [collect_of_length_lt hdeep hcut, ← hrun]

/-- **A refused request ends the run.**  Let a collection end without an error on a host, and let
another host answer like it wherever it answers, but fail on some fragments.  Then the requests made
to the other host are the first ones of those made to the host.  If none of them is refused, they
are all of them, and the definitions are the same; otherwise the last step of the run is the first
request that is refused, at whatever level it is made, and the run ends with the reason for that
refusal.  Every host meets the condition on the depth with the depth that it has by default. -/
theorem collect_of_impairs {host host' : Host} (h : host'.Impairs host)
    (hdeep : host'.results.length < host'.depth) (producers : List Producer)
    (definitions : List Definition)
    (hok : (collect (some host) producers).outcome = .ok definitions) :
    let run := collect (some host) producers
    let run' := collect (some host') producers
    calls run'.steps <+: calls run.steps ∧
      ((∀ c ∈ calls run'.steps, host'.refusal? c = none) →
        run'.outcome = .ok definitions ∧ run'.steps = run.steps) ∧
      ((∃ c ∈ calls run'.steps, host'.refusal? c ≠ none) →
        ∃ before c e, run'.steps = before ++ [.call c] ∧
          (∀ b ∈ calls before, host'.refusal? b = none) ∧ host'.refusal? c = some e ∧
          run'.outcome = .error e) := by
  intro run run'
  have hpasses : ∀ {steps : List Step}, (∀ s ∈ steps, host'.failure? s = none) →
      ∀ c ∈ calls steps, host'.refusal? c = none :=
    fun hsteps c hc => hsteps _ (mem_calls.1 hc)
  have hstopped : Stopped host'.failure? run run' := stopped_collect h hdeep hok
  refine ⟨hstopped.prefix_steps.filterMap Step.call?, ?_⟩
  generalize run' = r at hstopped
  cases hstopped with
  | whole hwhole =>
    refine ⟨fun _ => ⟨hok, rfl⟩, ?_⟩
    rintro ⟨c, hc, hrefused⟩
    exact absurd (hpasses hwhole c hc) hrefused
  | @short before after s e hsteps hbefore hfails =>
    obtain ⟨c, rfl, hrefused⟩ := failure?_eq_some_iff.1 hfails
    refine ⟨fun hnone => ?_, fun _ => ⟨before, c, e, rfl, hpasses hbefore, hrefused, rfl⟩⟩
    have hlast : c ∈ calls (before ++ [.call c]) :=
      mem_calls.2 (List.mem_append_right before (List.mem_singleton_self _))
    rw [hnone c hlast] at hrefused
    cases hrefused

/-- The second fragment yields a producer whose own second fragment has no result on the impaired
host: neither the fragments behind it nor those behind the producer are run. -/
theorem collect_of_impairs_inner :
    let host : Host := {
      results := [("direct", .definition ⟨["r"], [], [], [], [], []⟩),
        ("nested", .producer (.resolving ["prepare"] ["direct", "inner", "direct"])),
        ("inner", .producer (.custom [⟨[], ["d"], [], [], [], []⟩]))] }
    let host' : Host := {
      results := [("direct", .definition ⟨["r"], [], [], [], [], []⟩),
        ("nested", .producer (.resolving ["prepare"] ["direct", "inner", "direct"]))] }
    let producers : List Producer := [.resolving [] ["nested", "direct"], .resolving ["prepare"] []]
    (collect (some host') producers).outcome = .error (.noResult "inner") ∧
      calls (collect (some host') producers).steps = [.prepare [], .execute "nested",
        .prepare ["prepare"], .execute "direct", .execute "inner"] ∧
      calls (collect (some host') producers).steps <+: calls (collect (some host) producers).steps ∧
      ∃ before c e, (collect (some host') producers).steps = before ++ [.call c] ∧
        (∀ b ∈ calls before, host'.refusal? b = none) ∧ host'.refusal? c = some e ∧
        (collect (some host') producers).outcome = .error e := by
  intro host host' producers
  have himpairs : host'.Impairs host := by
    refine ⟨fun code => ?_, fun code hcode => hcode⟩
    by_cases hdirect : "direct" = code
    · simp [host, host', Assoc.get?, hdirect]
    · by_cases hnested : "nested" = code <;> simp [host, host', Assoc.get?, hdirect, hnested]
  obtain ⟨hfirst, -, hstopped⟩ := collect_of_impairs himpairs (by decide) producers _ rfl
  have hcalls : calls (collect (some host') producers).steps = [.prepare [], .execute "nested",
      .prepare ["prepare"], .execute "direct", .execute "inner"] := rfl
  refine ⟨rfl, hcalls, hfirst, hstopped ⟨.execute "inner", ?_, ?_⟩⟩
  · simp [hcalls]
  · exact Option.some_ne_none (Error.noResult "inner")

end LibraryCalls
