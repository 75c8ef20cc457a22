import LibraryCalls.Producer

/-!
# The record of a run

What a host is asked for while definitions are collected, in order, is the record of the run.  The
definitions can be read off it: each request to execute a fragment stands for the definitions that
the fragment's result holds itself, and the requests of a nested producer follow the one that has
yielded it.

Records are defined by what the host holds and not by a run: the record of a fragment is its request
and, if its result is a resolving producer, the record of that producer.  So the theorem relates two
descriptions of one thing, a recursive function with a depth and an inductive relation without one.

Runs that end are independent of the depth as long as it is enough, and this is used to state the
result for the host as it is.  No request is left out, made twice or made out of order, for the
requests of the run are the record.

* `Host.calls`: the requests among the steps of a run;
* `Producer.held`, `Yield.held`, `Host.held`: the definitions that need no further run;
* `Host.Recorded`, `Producer.Recorded`: the records that fragments and producers leave;
* `recorded_of_runCodes`, `walked_of_produceWithin`: every run that ends leaves such a record, and
  its definitions are those held along the record;
* `runCodes_congr`, `produceWithin_of_le`: a run that is not cut off is the same at every greater
  depth;
* `collect_record`: the same for a list of producers.
-/

namespace LibraryCalls

/-! ### Definitions at hand -/

def Producer.held : Producer → List Definition
  | .ready d => [d]
  | .custom ds => ds
  | .resolving .. => []

def Yield.held : Yield → List Definition
  | .definition d => [d]
  | .producer p => p.held
  | .other _ => []

namespace Host

/-- The definitions that the result of a request holds itself. -/
def held (host : Host) : HostCall → List Definition
  | .prepare _ => []
  | .execute code => ((host.results.get? code).map Yield.held).getD []

/-- The requests among the steps of a run, in order. -/
def calls (steps : List Step) : List HostCall :=
  steps.filterMap Step.call?

@[simp] theorem calls_nil : calls [] = [] := rfl

@[simp] theorem calls_append (s t : List Step) : calls (s ++ t) = calls s ++ calls t :=
  List.filterMap_append

/-! ### Records -/

/-- The record that a list of fragments leaves.  Each fragment is executed in turn.  When it yields
a resolving producer, the whole record of that producer follows at once: one request to prepare, and
the record of the producer's own fragments. -/
inductive Recorded (host : Host) : List String → List HostCall → Prop
  | nil : Recorded host [] []
  | plain {code : String} {result : Yield} {rest : List String} {others : List HostCall}
      (yields : host.results.get? code = some result)
      (settled : ∀ init codes, result ≠ .producer (.resolving init codes))
      (after : Recorded host rest others) :
      Recorded host (code :: rest) (.execute code :: others)
  | nested {code : String} {init codes rest : List String} {inner others : List HostCall}
      (yields : host.results.get? code = some (.producer (.resolving init codes)))
      (within : Recorded host codes inner)
      (after : Recorded host rest others) :
      Recorded host (code :: rest) (.execute code :: .prepare init :: (inner ++ others))

end Host

open Host

/-- The record that a producer leaves: none, or one request to prepare and the record of its
fragments. -/
def Producer.Recorded (host : Host) : Producer → List HostCall → Prop
  | .ready _, record => record = []
  | .custom _, record => record = []
  | .resolving init codes, record =>
    ∃ inner, record = .prepare init :: inner ∧ Host.Recorded host codes inner

/-- A run that has left the record of a producer, and has found the definitions held along it. -/
structure Producer.Walked (host : Host) (p : Producer) (run : Run (List Definition))
    (found : List Definition) : Prop where
  recorded : p.Recorded host (calls run.steps)
  found_eq : found = p.held ++ (calls run.steps).flatMap host.held

namespace Producer

variable {host : Host}

/-! ### One fragment -/

/-- What is collected from a result, given how to run a producer. -/
def collectFrom (nested : Producer → Run (List Definition)) : Yield → Run (List Definition)
  | .definition d => pure [d]
  | .producer p => nested p
  | .other _ => pure []

theorem runCodes_cons (nested : Producer → Run (List Definition)) (code : String)
    (rest : List String) :
    runCodes host nested (code :: rest) = host.execute code >>= fun result =>
      collectFrom nested result >>= fun found =>
        runCodes host nested rest >>= fun others => pure (found ++ others) := by
  rw [runCodes]
  congr 1
  funext result
  cases result <;> rfl

theorem outcome_execute_eq_ok_iff {code : String} {result : Yield} :
    (host.execute code).outcome = .ok result ↔ host.results.get? code = some result := by
  rw [Host.execute]
  cases host.results.get? code <;> simp

/-- **A run over fragments that ends** has run the first one to its end and then the others. -/
theorem runCodes_cons_ok {nested : Producer → Run (List Definition)} {code : String}
    {rest : List String} {definitions : List Definition}
    (h : (runCodes host nested (code :: rest)).outcome = .ok definitions) :
    ∃ result found others, host.results.get? code = some result ∧
      (collectFrom nested result).outcome = .ok found ∧
      (runCodes host nested rest).outcome = .ok others ∧ definitions = found ++ others ∧
      (runCodes host nested (code :: rest)).steps = .call (.execute code)
        :: ((collectFrom nested result).steps ++ (runCodes host nested rest).steps) := by
  rw [runCodes_cons] at h ⊢
  obtain ⟨result, hresult, h⟩ := Traced.outcome_bind_eq_ok_iff.1 h
  obtain ⟨found, hfound, h⟩ := Traced.outcome_bind_eq_ok_iff.1 h
  obtain ⟨others, hothers, h⟩ := Traced.outcome_bind_eq_ok_iff.1 h
  refine ⟨result, found, others, outcome_execute_eq_ok_iff.1 hresult, hfound, hothers,
    (Except.ok.inj h).symm, ?_⟩
  rw [Traced.steps_bind_ok hresult, Traced.steps_bind_ok hfound, Traced.steps_bind_ok hothers,
    Traced.steps_pure, List.append_nil]
  rfl

/-! ### Fragments and producers -/

/-- **Fragments leave their record**, if the producers that they yield do. -/
theorem recorded_of_runCodes {nested : Producer → Run (List Definition)}
    (hnested : ∀ p found, (nested p).outcome = .ok found → p.Walked host (nested p) found)
    {codes : List String} {definitions : List Definition}
    (h : (runCodes host nested codes).outcome = .ok definitions) :
    host.Recorded codes (calls (runCodes host nested codes).steps) ∧
      definitions = (calls (runCodes host nested codes).steps).flatMap host.held := by
  induction codes generalizing definitions with
  | nil =>
    obtain rfl : [] = definitions := Except.ok.inj h
    exact ⟨.nil, rfl⟩
  | cons code rest ih =>
    obtain ⟨result, found, others, hresult, hfound, hothers, rfl, hsteps⟩ := runCodes_cons_ok h
    obtain ⟨hrest, rfl⟩ := ih hothers
    have hcalls : calls (runCodes host nested (code :: rest)).steps = .execute code
        :: (calls (collectFrom nested result).steps ++
            calls (runCodes host nested rest).steps) := by
      rw [hsteps, ← calls_append]
      rfl
    have hheld : host.held (.execute code) = result.held := by
      rw [Host.held, hresult]
      rfl
    rw [hcalls, List.flatMap_cons, List.flatMap_append, hheld]
    cases result with
    | definition d =>
      obtain rfl : [d] = found := Except.ok.inj hfound
      exact ⟨.plain hresult (by simp) hrest, rfl⟩
    | other value =>
      obtain rfl : [] = found := Except.ok.inj hfound
      exact ⟨.plain hresult (by simp) hrest, rfl⟩
    | producer p =>
      obtain ⟨hrecorded, rfl⟩ := hnested p found hfound
      rw [List.append_assoc]
      refine ⟨?_, rfl⟩
      cases p with
      | ready d =>
        rw [show calls (collectFrom nested (.producer (.ready d))).steps = [] from hrecorded]
        exact .plain hresult (by simp) hrest
      | custom ds =>
        rw [show calls (collectFrom nested (.producer (.custom ds))).steps = [] from hrecorded]
        exact .plain hresult (by simp) hrest
      | resolving init codes =>
        obtain ⟨inner, hinner, hwithin⟩ := hrecorded
        rw [show calls (collectFrom nested (.producer (.resolving init codes))).steps
          = .prepare init :: inner from hinner]
        exact .nested hresult hwithin hrest

/-- A resolving producer that is run to its end prepares, runs its fragments, and reports. -/
theorem produceWithin_resolving_ok {depth : Nat} {init codes : List String}
    {definitions : List Definition}
    (h : (produceWithin host depth (.resolving init codes)).outcome = .ok definitions) :
    ∃ below, depth = below + 1 ∧
      (host.prepare init).outcome = .ok () ∧
      (runCodes host (produceWithin host below) codes).outcome = .ok definitions ∧
      (produceWithin host depth (.resolving init codes)).steps = .call (.prepare init)
        :: .event (.initCodeExecuted init.length)
        :: ((runCodes host (produceWithin host below) codes).steps
          ++ [.event (.definitionCodeExecuted codes.length definitions.length)]) := by
  cases depth with
  | zero => exact absurd h (by simp [produceWithin, Traced.fail])
  | succ below =>
    rw [produceWithin] at h ⊢
    obtain ⟨u, hprepare, h⟩ := Traced.outcome_bind_eq_ok_iff.1 h
    obtain ⟨v, hreport, h⟩ := Traced.outcome_bind_eq_ok_iff.1 h
    obtain ⟨found, hfound, h⟩ := Traced.outcome_bind_eq_ok_iff.1 h
    obtain rfl : found = definitions := Except.ok.inj h
    refine ⟨below, rfl, hprepare, hfound, ?_⟩
    rw [Traced.steps_bind_ok hprepare, Traced.steps_bind_ok hreport, Traced.steps_bind_ok hfound]
    rfl

/-- **Every producer that is run to its end leaves its record**, and yields what is held along it.
-/
theorem walked_of_produceWithin {depth : Nat} {p : Producer} {found : List Definition}
    (h : (produceWithin host depth p).outcome = .ok found) :
    p.Walked host (produceWithin host depth p) found := by
  induction depth using Nat.strongRecOn generalizing p found with
  | ind depth ih =>
    cases p with
    | ready d =>
      rw [produceWithin] at h ⊢
      obtain rfl : [d] = found := Except.ok.inj h
      exact ⟨rfl, rfl⟩
    | custom ds =>
      rw [produceWithin] at h ⊢
      obtain rfl : ds = found := Except.ok.inj h
      exact ⟨rfl, (List.append_nil ds).symm⟩
    | resolving init codes =>
      obtain ⟨below, rfl, -, hrun, hsteps⟩ := produceWithin_resolving_ok h
      obtain ⟨hrecorded, hfound⟩ :=
        recorded_of_runCodes (fun q ds hq => ih below (Nat.lt_succ_self below) hq) hrun
      have hcalls : calls (produceWithin host (below + 1) (.resolving init codes)).steps
          = .prepare init :: calls (runCodes host (produceWithin host below) codes).steps := by
        rw [hsteps]
        show HostCall.prepare init :: calls (_ ++ [_]) = _
        rw [calls_append]
        exact congrArg _ (List.append_nil _)
      constructor
      · rw [hcalls]
        exact ⟨_, rfl, hrecorded⟩
      · rw [hcalls, hfound]
        rfl

/-! ### The depth allowed -/

/-- Fragments run the same if the producers that they yield do, as long as none of these is nested
too deeply. -/
theorem runCodes_congr {nested deeper : Producer → Run (List Definition)}
    (hnested : ∀ code p, host.results.get? code = some (.producer p) →
      (nested p).outcome ≠ .error .tooDeep → deeper p = nested p)
    {codes : List String} (h : (runCodes host nested codes).outcome ≠ .error .tooDeep) :
    runCodes host deeper codes = runCodes host nested codes := by
  induction codes with
  | nil => rfl
  | cons code rest ih =>
    rw [runCodes_cons] at h
    rw [runCodes_cons, runCodes_cons]
    apply Traced.bind_congr
    intro result hresult
    have hafter := (Traced.outcome_ne_error_of_bind h).2 result hresult
    obtain ⟨hfound, hothers⟩ := Traced.outcome_ne_error_of_bind hafter
    have hcollect : collectFrom deeper result = collectFrom nested result := by
      cases result with
      | definition d => rfl
      | other value => rfl
      | producer p => exact hnested code p (outcome_execute_eq_ok_iff.1 hresult) hfound
    rw [hcollect]
    apply Traced.bind_congr
    intro found hok
    rw [ih (Traced.outcome_ne_error_of_bind (hothers found hok)).1]

/-- A resolving producer runs the same if its fragments do. -/
theorem produceWithin_resolving_congr {depth deeper : Nat} {init codes : List String}
    (hnested : ∀ code p, host.results.get? code = some (.producer p) →
      (produceWithin host depth p).outcome ≠ .error .tooDeep →
      produceWithin host deeper p = produceWithin host depth p)
    (h : (produceWithin host (depth + 1) (.resolving init codes)).outcome ≠ .error .tooDeep) :
    produceWithin host (deeper + 1) (.resolving init codes)
      = produceWithin host (depth + 1) (.resolving init codes) := by
  rw [produceWithin] at h
  rw [produceWithin, produceWithin]
  apply Traced.bind_congr
  intro u hprepare
  have hreported := (Traced.outcome_ne_error_of_bind h).2 u hprepare
  apply Traced.bind_congr
  intro v hreport
  have hrun := (Traced.outcome_ne_error_of_bind hreported).2 v hreport
  rw [runCodes_congr hnested (Traced.outcome_ne_error_of_bind hrun).1]

/-- **A run that is not cut off is the same at every greater depth.** -/
theorem produceWithin_of_le {depth deeper : Nat} (hle : depth ≤ deeper) {p : Producer}
    (h : (produceWithin host depth p).outcome ≠ .error .tooDeep) :
    produceWithin host deeper p = produceWithin host depth p := by
  induction depth generalizing deeper p with
  | zero =>
    cases p with
    | ready d => rw [produceWithin, produceWithin]
    | custom ds => rw [produceWithin, produceWithin]
    | resolving init codes => exact absurd rfl h
  | succ depth ih =>
    cases p with
    | ready d => rw [produceWithin, produceWithin]
    | custom ds => rw [produceWithin, produceWithin]
    | resolving init codes =>
      obtain ⟨deeper, rfl⟩ : ∃ k, deeper = k + 1 := ⟨deeper - 1, by omega⟩
      exact produceWithin_resolving_congr
        (fun code q _ hq => ih (Nat.le_of_succ_le_succ hle) hq) h

/-- The depth that a host allows is not looked at by its answers. -/
theorem produceWithin_withDepth (limit depth : Nat) (p : Producer) :
    produceWithin { host with depth := limit } depth p = produceWithin host depth p := by
  induction depth generalizing p with
  | zero => cases p <;> rfl
  | succ depth ih =>
    cases p with
    | ready d => rfl
    | custom ds => rfl
    | resolving init codes =>
      have hcodes : ∀ nested : Producer → Run (List Definition),
          runCodes { host with depth := limit } nested codes = runCodes host nested codes := by
        intro nested
        induction codes with
        | nil => rfl
        | cons code rest ihc =>
          rw [runCodes_cons, runCodes_cons, ihc]
          rfl
      rw [produceWithin, produceWithin, hcodes, funext ih]
      rfl

theorem produce_withDepth (host : Host) (depth : Nat) (p : Producer) :
    p.produce (some { host with depth := depth }) = produceWithin host depth p :=
  produceWithin_withDepth depth depth p

end Producer

/-! ### Collecting -/

theorem collect_cons (host : Option Host) (p : Producer) (rest : List Producer) :
    collect host (p :: rest) = p.produce host >>= fun found =>
      collect host rest >>= fun others => pure (found ++ others) := rfl

/-- A collection that ends has run the first producer to its end and then the others. -/
theorem collect_cons_ok {host : Option Host} {p : Producer} {rest : List Producer}
    {definitions : List Definition}
    (h : (collect host (p :: rest)).outcome = .ok definitions) :
    ∃ found others, (p.produce host).outcome = .ok found ∧
      (collect host rest).outcome = .ok others ∧ definitions = found ++ others ∧
      (collect host (p :: rest)).steps = (p.produce host).steps ++ (collect host rest).steps := by
  rw [collect_cons] at h ⊢
  obtain ⟨found, hfound, h⟩ := Traced.outcome_bind_eq_ok_iff.1 h
  obtain ⟨others, hothers, h⟩ := Traced.outcome_bind_eq_ok_iff.1 h
  refine ⟨found, others, hfound, hothers, (Except.ok.inj h).symm, ?_⟩
  rw [Traced.steps_bind_ok hfound, Traced.steps_bind_ok hothers, Traced.steps_pure,
    List.append_nil]

/-- A collection is the same at two depths if its producers run the same. -/
theorem collect_congr_depth {host : Host} {depth deeper : Nat}
    (hsame : ∀ p, (Producer.produceWithin host depth p).outcome ≠ .error .tooDeep →
      Producer.produceWithin host deeper p = Producer.produceWithin host depth p)
    {producers : List Producer}
    (h : (collect (some { host with depth := depth }) producers).outcome ≠ .error .tooDeep) :
    collect (some { host with depth := deeper }) producers
      = collect (some { host with depth := depth }) producers := by
  induction producers with
  | nil => rfl
  | cons p rest ih =>
    rw [collect_cons, Producer.produce_withDepth] at h
    obtain ⟨hfirst, hothers⟩ := Traced.outcome_ne_error_of_bind h
    rw [collect_cons, collect_cons, Producer.produce_withDepth, Producer.produce_withDepth,
      hsame p hfirst]
    apply Traced.bind_congr
    intro found hfound
    rw [ih (Traced.outcome_ne_error_of_bind (hothers found hfound)).1]

/-- A collection that is not cut off is the same on a host that allows a greater depth. -/
theorem collect_withDepth {host : Host} {depth : Nat} (hle : host.depth ≤ depth)
    {producers : List Producer}
    (h : (collect (some host) producers).outcome ≠ .error .tooDeep) :
    collect (some { host with depth := depth }) producers = collect (some host) producers :=
  collect_congr_depth (fun _ hp => Producer.produceWithin_of_le hle hp) h

/-- **The definitions are those held along the record.**  A collection that ends splits its requests
into one record for each producer: none for a producer that has its definitions ready, and for a
resolving one a request to prepare followed by its fragments, each with the record of the producer
it has yielded.  Going through the producers and their records in order, and taking what a producer
has ready and what the result of each executed fragment holds itself, gives the definitions
collected. The depth that the host allows plays no part in this, once the collection ends. -/
theorem collect_record (host : Host) (producers : List Producer) (definitions : List Definition)
    (h : (collect (some host) producers).outcome = .ok definitions) :
    (∃ runs : List (Producer × List HostCall), runs.map Prod.fst = producers ∧
      (∀ r ∈ runs, r.1.Recorded host r.2) ∧
      calls (collect (some host) producers).steps = runs.flatMap Prod.snd ∧
      definitions = runs.flatMap fun r => r.1.held ++ r.2.flatMap host.held) ∧
    ∀ depth, host.depth ≤ depth →
      collect (some { host with depth := depth }) producers = collect (some host) producers := by
  refine ⟨?_, fun depth hle => collect_withDepth hle fun he => by cases h.symm.trans he⟩
  induction producers generalizing definitions with
  | nil =>
    obtain rfl : [] = definitions := Except.ok.inj h
    exact ⟨[], rfl, by simp, rfl, rfl⟩
  | cons p rest ih =>
    obtain ⟨found, others, hfound, hothers, rfl, hsteps⟩ := collect_cons_ok h
    obtain ⟨runs, hmap, hrecorded, hcalls, rfl⟩ := ih others hothers
    have hwalked : p.Walked host (p.produce (some host)) found :=
      Producer.walked_of_produceWithin hfound
    refine ⟨(p, calls (p.produce (some host)).steps) :: runs, ?_, ?_, ?_, ?_⟩
    · rw [List.map_cons, hmap]
    · intro r hr
      rcases List.mem_cons.1 hr with rfl | hr
      · exact hwalked.recorded
      · exact hrecorded r hr
    · rw [hsteps, calls_append, hcalls, List.flatMap_cons]
    · rw [List.flatMap_cons, hwalked.found_eq]

/-- A fragment that yields a producer with two fragments of its own, between one that yields a
definition and one that yields a number; the last producer has its definition ready. -/
theorem collect_record_nested :
    let host : Host := {
      results := [("direct", .definition ⟨["r"], [], [], [], [], []⟩),
        ("nested", .producer (.resolving ["prepare"] ["inner", "direct"])),
        ("number", .other (.int 42)),
        ("inner", .producer (.custom [⟨[], ["d"], [], [], [], []⟩]))] }
    let producers : List Producer := [.resolving [] ["direct", "nested", "number"],
      .ready ⟨[], [], ["i"], [], [], []⟩]
    let definitions : List Definition := [⟨["r"], [], [], [], [], []⟩, ⟨[], ["d"], [], [], [], []⟩,
      ⟨["r"], [], [], [], [], []⟩, ⟨[], [], ["i"], [], [], []⟩]
    (collect (some host) producers).outcome = .ok definitions ∧
      calls (collect (some host) producers).steps = [.prepare [], .execute "direct",
        .execute "nested", .prepare ["prepare"], .execute "inner", .execute "direct",
        .execute "number"] ∧
      ∃ runs : List (Producer × List HostCall), runs.map Prod.fst = producers ∧
        (∀ r ∈ runs, r.1.Recorded host r.2) ∧
        calls (collect (some host) producers).steps = runs.flatMap Prod.snd ∧
        definitions = runs.flatMap fun r => r.1.held ++ r.2.flatMap host.held :=
  ⟨rfl, rfl, (collect_record _ _ _ rfl).1⟩

end LibraryCalls
