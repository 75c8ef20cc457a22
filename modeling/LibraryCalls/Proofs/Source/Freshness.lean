import Mathlib
import LibraryCalls.Proofs.Web.Exchange
import LibraryCalls.Proofs.Web.Room
import LibraryCalls.Source.Freshness

/-!
# What a question for the newest commit leaves behind

The question is asked once, or twice if nothing is found after a given time, and what comes of it is
decided by what the client got to hear last.

What leaves a question is left to its handler.  The failures that are caught are those of the
classes that are named there, and only one class is not: a body that there is no room for.  So the
question comes to an end wherever there is room for the bodies, and if it does not, it fails for
want of room.

* `Commit.ofJson_eq_ok_iff`: the answers that describe a commit;
* `Freshness.attempt`, `Freshness.Settled`: the steps of one question, and what is made of the
  answer;
* `Freshness.class_of_question`, `class_of_latestCommit`: the failures that are passed on;
* `Freshness.settled_question`, `Freshness.question_returns`: the question asked once;
* `latestCommit_returns`, `latestCommit_settled`: the whole question comes to an end, and is
  settled;
* `latestCommit_trace`: every step of the whole, and its result.
-/

namespace LibraryCalls

variable {settings : Settings} {ref : String} {since : Option String} {follow : Bool}
  {web web' : Web}
  {j : Json} {c : Commit}

/-! ### Descriptions of commits -/

namespace Commit

/-- A list whose first item is an object that describes a commit. -/
def Described (j : Json) (c : Commit) : Prop :=
  ∃ item rest commit committer,
    j = .arr (.obj item :: rest) ∧ Assoc.get? item "sha" = some c.sha ∧
      Assoc.get? item "commit" = some (.obj commit) ∧
      Assoc.get? commit "committer" = some (.obj committer) ∧
      Assoc.get? committer "date" = some c.timestamp

theorem member_eq_ok_iff {name : String} {value : Json} :
    member j name = .ok value ↔ ∃ ms, j = .obj ms ∧ Assoc.get? ms name = some value := by
  cases j with
  | obj ms =>
    have hmember : (Json.obj ms).member? name = Assoc.get? ms name := rfl
    simp only [member, hmember, Json.obj.injEq, exists_eq_left']
    cases Assoc.get? ms name <;> simp
  | _ => simp [member]

theorem first_eq_ok_obj_iff {item : List (String × Json)} :
    first j = .ok (.obj item) ↔ ∃ rest, j = .arr (.obj item :: rest) := by
  cases j with
  | arr items => cases items <;> simp [first]
  | _ => simp [first]

/-- **An answer describes a commit** exactly when it is read as that commit. -/
theorem ofJson_eq_ok_iff : ofJson j = .ok c ↔ Described j c := by
  constructor
  · intro h
    rw [ofJson] at h
    split at h
    · cases h
    · next item hitem =>
      split at h
      · cases h
      · next sha hsha =>
        split at h
        · cases h
        · next commit hcommit =>
          split at h
          · cases h
          · next committer hcommitter =>
            obtain ⟨date, hdate, rfl⟩ : ∃ date, member committer "date" = .ok date ∧
                Commit.mk sha date = c := by
              cases hdate : member committer "date" with
              | error e => rw [hdate] at h; cases h
              | ok date => rw [hdate] at h; exact ⟨date, rfl, Except.ok.inj h⟩
            obtain ⟨ms, rfl, hsha'⟩ := member_eq_ok_iff.1 hsha
            obtain ⟨rest, rfl⟩ := first_eq_ok_obj_iff.1 hitem
            obtain ⟨ms', heq, hcommit'⟩ := member_eq_ok_iff.1 hcommit
            obtain rfl := Json.obj.inj heq
            obtain ⟨cs, rfl, hcommitter'⟩ := member_eq_ok_iff.1 hcommitter
            obtain ⟨ds, rfl, hdate'⟩ := member_eq_ok_iff.1 hdate
            exact ⟨ms, rest, cs, ds, rfl, hsha', hcommit', hcommitter', hdate'⟩
  · rintro ⟨item, rest, commit, committer, rfl, hsha, hcommit, hcommitter, hdate⟩
    simp only [ofJson, first_eq_ok_obj_iff.2 ⟨rest, rfl⟩, member_eq_ok_iff.2 ⟨item, rfl, hsha⟩,
      member_eq_ok_iff.2 ⟨item, rfl, hcommit⟩, member_eq_ok_iff.2 ⟨commit, rfl, hcommitter⟩,
      member_eq_ok_iff.2 ⟨committer, rfl, hdate⟩]
    rfl

theorem Described.isVoid (h : Described j c) : j.isVoid = false := by
  obtain ⟨item, rest, -, -, rfl, -⟩ := h
  rfl

theorem Described.unique {c' : Commit} (h : Described j c) (h' : Described j c') : c = c' :=
  Except.ok.inj ((ofJson_eq_ok_iff.2 h).symm.trans (ofJson_eq_ok_iff.2 h'))

end Commit

/-! ### One question -/

namespace Freshness

/-- The steps of one question: it is reported, and there is at most one request. -/
def attempt (settings : Settings) (ref : String) (since : Option String) : List Web.Step :=
  .event (.commitCheck (url settings) (params settings ref since)) ::
    (Web.requested? (url settings) (params settings ref since)).toList.map Web.Url.request

/-- What the client gets to hear when it asks once. -/
def heard? (settings : Settings) (ref : String) (since : Option String) (web : Web) :
    Option Json :=
  Web.heard? (url settings) (params settings ref since) web

/-- What is made of the last answer: the commit that it describes, without a word, or a report that
there is none or that the question failed. -/
structure Settled (settings : Settings) (heard : Option Json) (verdict : List Event)
    (result : Option Commit) : Prop where
  found : ∀ c, result = some c ↔ ∃ j, heard = some j ∧ Commit.Described j c
  silent : result ≠ none → verdict = []
  empty : heard.any Json.isVoid = true →
    verdict = [.commitCheckEmpty (url settings) settings.librariesDir]
  failed : result = none → heard.any Json.isVoid = false →
    ∃ kind, verdict = [.commitCheckFailed (url settings) kind]

theorem steps_ask (settings : Settings) (ref : String) (since : Option String) (web : Web) :
    (ask settings false ref since web).steps = attempt settings ref since := by
  rw [ask, Traced.steps_bind_ok rfl, Web.steps_getJson, Web.steps_get_false]
  rfl

theorem outcome_ask_eq_ok_iff :
    (ask settings false ref since web).outcome = .ok (j, web') ↔
      heard? settings ref since web = some j ∧ web.next.2 = web' := by
  rw [ask, Traced.outcome_bind_ok rfl, Web.outcome_getJson_eq_ok_iff]
  rfl

/-- Nothing is heard when the question fails. -/
theorem heard?_eq_none {e : Web.Failure}
    (h : (ask settings false ref since web).outcome = .error e) :
    heard? settings ref since web = none := by
  cases hheard : heard? settings ref since web with
  | none => rfl
  | some j =>
    rw [outcome_ask_eq_ok_iff.2 ⟨hheard, rfl⟩] at h
    cases h

/-- A question that fails is reported. -/
theorem settled_failed (settings : Settings) (kind : String) :
    Settled settings none [.commitCheckFailed (url settings) kind] none where
  found := by simp
  silent := by simp
  empty := by simp
  failed _ _ := ⟨kind, rfl⟩

/-- An answer that says nothing is reported. -/
theorem settled_empty (h : j.isVoid = true) :
    Settled settings (some j) [.commitCheckEmpty (url settings) settings.librariesDir] none where
  found c := by
    refine ⟨fun hc => (by cases hc), fun ⟨k, hk, hd⟩ => ?_⟩
    obtain rfl := Option.some.inj hk
    rw [hd.isVoid] at h
    cases h
  silent := by simp
  empty _ := rfl
  failed _ hvoid := by simp [h] at hvoid

/-- An answer that describes a commit is told without a word. -/
theorem settled_commit (hvoid : j.isVoid = false) (hc : Commit.ofJson j = .ok c) :
    Settled settings (some j) [] (some c) where
  found c' := by
    have hd := Commit.ofJson_eq_ok_iff.1 hc
    constructor
    · intro hsome
      exact ⟨j, rfl, Option.some.inj hsome ▸ hd⟩
    · rintro ⟨k, hk, hd'⟩
      obtain rfl := Option.some.inj hk
      exact congrArg some (hd.unique hd')
  silent _ := rfl
  empty := by simp [hvoid]
  failed := by simp

/-- An answer that says something else is reported. -/
theorem settled_shape (hvoid : j.isVoid = false) {e : CommitFault}
    (hc : Commit.ofJson j = .error e) :
    Settled settings (some j) [.commitCheckFailed (url settings) e.kind] none where
  found c' := by
    refine ⟨fun hsome => (by cases hsome), fun ⟨k, hk, hd⟩ => ?_⟩
    obtain rfl := Option.some.inj hk
    rw [Commit.ofJson_eq_ok_iff.2 hd] at hc
    cases hc
  silent := by simp
  empty := by simp [hvoid]
  failed _ _ := ⟨e.kind, rfl⟩

/-! ### Failures that pass -/

/-- Only one class of failures is not caught. -/
theorem report?_eq_none_iff {e : Failure} : report? settings e = none ↔ e.class = .recursion := by
  cases h : e.class <;> simp [report?, caught, h]

/-- The faults of an answer are caught. -/
theorem report?_shape (fault : CommitFault) :
    report? settings (.shape fault)
      = some ⟨[.event (.commitCheckFailed (url settings) fault.kind)], .ok none⟩ := by
  cases fault <;> rfl

theorem report?_of_ne {e : Failure} (h : e.class ≠ .recursion) :
    report? settings e
      = some ⟨[.event (.commitCheckFailed (url settings) e.kind)], .ok none⟩ := by
  have hne : report? settings e ≠ none := fun hnone => h (report?_eq_none_iff.1 hnone)
  rw [report?] at hne ⊢
  split at hne
  · next hcaught => rw [if_pos hcaught]
  · exact absurd rfl hne

/-- **The failures that a question passes on** are of the class that is not caught. -/
theorem class_of_question {next : Web → Run} {e : Failure}
    (h : (question settings follow ref since next web).outcome = .error e) :
    e.class = .recursion := by
  refine report?_eq_none_iff.1 (Traced.unhandled_of_rescue ?_ h)
  intro e' y hy
  by_cases hclass : e'.class = .recursion
  · rw [report?_eq_none_iff.2 hclass] at hy
    cases hy
  · rw [report?_of_ne hclass] at hy
    exact ⟨none, Option.some.inj hy ▸ rfl⟩

theorem class_of_unfiltered {e : Failure}
    (h : (unfiltered settings follow ref web).outcome = .error e) : e.class = .recursion :=
  class_of_question h

/-! ### How a question goes on -/

section

variable {next : Web → Run} {e : Web.Failure}

/-- A failure of the client is reported. -/
theorem question_of_failure (h : (ask settings follow ref since web).outcome = .error e)
    (hclass : e.class ≠ .recursion) :
    question settings follow ref since next web
      = ⟨(ask settings follow ref since web).steps
          ++ [.event (.commitCheckFailed (url settings) e.kind)], .ok none⟩ := by
  rw [question, Traced.mapError_of_error h]
  exact Traced.rescue_of_handled rfl (report?_of_ne (e := .client e) hclass)

/-- A failure that is not caught passes. -/
theorem question_of_exhausted (h : (ask settings follow ref since web).outcome = .error e)
    (hclass : e.class = .recursion) :
    question settings follow ref since next web
      = ⟨(ask settings follow ref since web).steps, .error (.client e)⟩ := by
  rw [question, Traced.mapError_of_error h]
  refine Traced.rescue_of_unhandled fun e' he' => ?_
  obtain rfl := Except.error.inj he'
  exact report?_eq_none_iff.2 hclass

/-- An answer that says nothing leads on. -/
theorem question_of_void {rest : Web}
    (h : (ask settings follow ref since web).outcome = .ok (j, rest)) (hvoid : j.isVoid = true)
    (hnext : ∀ e, (next rest).outcome = .error e → e.class = .recursion) :
    question settings follow ref since next web
      = ⟨(ask settings follow ref since web).steps ++ (next rest).steps,
          (next rest).outcome⟩ := by
  rw [question, Traced.mapError_of_ok h, Traced.bind_eq]
  simp only [hvoid, if_true]
  exact Traced.rescue_of_unhandled fun e he => report?_eq_none_iff.2 (hnext e he)

/-- An answer that describes a commit is told. -/
theorem question_of_commit {rest : Web}
    (h : (ask settings follow ref since web).outcome = .ok (j, rest)) (hvoid : j.isVoid = false)
    (hc : Commit.ofJson j = .ok c) :
    question settings follow ref since next web
      = ⟨(ask settings follow ref since web).steps, .ok (some c)⟩ := by
  rw [question, Traced.mapError_of_ok h, Traced.bind_eq]
  simp only [hvoid, hc, Bool.false_eq_true, if_false]
  rw [Traced.rescue_of_ok rfl]
  exact congrArg (Traced.mk · _) (List.append_nil _)

/-- An answer of another shape is reported. -/
theorem question_of_shape {rest : Web} {fault : CommitFault}
    (h : (ask settings follow ref since web).outcome = .ok (j, rest)) (hvoid : j.isVoid = false)
    (hc : Commit.ofJson j = .error fault) :
    question settings follow ref since next web
      = ⟨(ask settings follow ref since web).steps
          ++ [.event (.commitCheckFailed (url settings) fault.kind)], .ok none⟩ := by
  rw [question, Traced.mapError_of_ok h, Traced.bind_eq]
  simp only [hvoid, hc, Bool.false_eq_true, if_false]
  rw [Traced.rescue_of_handled rfl (report?_shape fault)]
  refine congrArg (Traced.mk · _) ?_
  show ((ask settings follow ref since web).steps ++ []) ++ _ = _
  rw [List.append_nil]

end

/-! ### Questions that come to an end -/

/-- **A question comes to an end** where there is room for the bodies, if what is done when the
answer says nothing comes to one. -/
theorem question_returns {next : Web → Run} (hroom : web.Roomy)
    (hnext : ∀ rest : Web, rest.Roomy → ∃ result, (next rest).outcome = .ok result) :
    ∃ result, (question settings follow ref since next web).outcome = .ok result := by
  have hask : ∀ outcome, (ask settings follow ref since web).outcome = outcome →
      (Web.getJson follow (url settings) (params settings ref since) web).outcome = outcome := by
    intro outcome h
    rwa [ask, Traced.outcome_bind_ok rfl] at h
  obtain ⟨hfails, hleaves⟩ :=
    Web.getJson_of_roomy hroom follow (url settings) (params settings ref since)
  cases houtcome : (ask settings follow ref since web).outcome with
  | error e =>
    rw [question_of_failure houtcome (hfails e (hask _ houtcome))]
    exact ⟨none, rfl⟩
  | ok p =>
    obtain ⟨j, rest⟩ := p
    cases hvoid : j.isVoid with
    | true =>
      obtain ⟨result, hresult⟩ := hnext rest (hleaves _ (hask _ houtcome))
      rw [question_of_void houtcome hvoid fun e he => (by rw [hresult] at he; cases he)]
      exact ⟨result, hresult⟩
    | false =>
      cases hc : Commit.ofJson j with
      | ok c =>
        rw [question_of_commit houtcome hvoid hc]
        exact ⟨some c, rfl⟩
      | error fault =>
        rw [question_of_shape houtcome hvoid hc]
        exact ⟨none, rfl⟩

/-! ### The question once and twice -/

/-- **A question that is answered**, whatever is done when the answer says nothing: that is what the
run goes on with, or else the answer settles it. -/
theorem settled_question (next : Web → Run) {result : Option Commit}
    (hnext : ∀ rest e, (next rest).outcome = .error e → e.class = .recursion)
    (h : (question settings false ref since next web).outcome = .ok result) :
    ((heard? settings ref since web).any Json.isVoid = true ∧
      (question settings false ref since next web).steps
        = attempt settings ref since ++ (next web.next.2).steps ∧
      (next web.next.2).outcome = .ok result) ∨
    ((heard? settings ref since web).any Json.isVoid = false ∧
      ∃ verdict : List Event,
        (question settings false ref since next web).steps
          = attempt settings ref since ++ verdict.map .event ∧
        Settled settings (heard? settings ref since web) verdict result) := by
  rw [← steps_ask settings ref since web]
  cases hask : (ask settings false ref since web).outcome with
  | error e =>
    rw [heard?_eq_none hask]
    by_cases hclass : e.class = .recursion
    · rw [question_of_exhausted hask hclass] at h
      cases h
    · rw [question_of_failure hask hclass] at h ⊢
      obtain rfl := Except.ok.inj h
      exact .inr ⟨rfl, _, rfl, settled_failed settings e.kind⟩
  | ok p =>
    obtain ⟨j, rest⟩ := p
    obtain ⟨hheard, rfl⟩ := outcome_ask_eq_ok_iff.1 hask
    rw [hheard]
    cases hvoid : j.isVoid with
    | true =>
      rw [question_of_void hask hvoid (hnext _)] at h ⊢
      exact .inl ⟨hvoid, rfl, h⟩
    | false =>
      refine .inr ⟨hvoid, ?_⟩
      cases hc : Commit.ofJson j with
      | ok c =>
        rw [question_of_commit hask hvoid hc] at h ⊢
        obtain rfl := Except.ok.inj h
        exact ⟨[], (List.append_nil _).symm, settled_commit hvoid hc⟩
      | error fault =>
        rw [question_of_shape hask hvoid hc] at h ⊢
        obtain rfl := Except.ok.inj h
        exact ⟨_, rfl, settled_shape hvoid hc⟩

/-- **The question without a time** is asked once. -/
theorem settled_unfiltered {result : Option Commit}
    (h : (unfiltered settings false ref web).outcome = .ok result) :
    ∃ verdict : List Event,
      (unfiltered settings false ref web).steps
          = attempt settings ref none ++ verdict.map .event ∧
        Settled settings (heard? settings ref none web) verdict result := by
  rw [unfiltered] at h ⊢
  rcases settled_question (reportEmpty settings) (fun _ _ he => (by cases he)) h with
    ⟨hvoid, hsteps, hresult⟩ | ⟨-, hsettled⟩
  · obtain ⟨j, hj, hjvoid⟩ := (Option.any_eq_true _ _).1 hvoid
    obtain rfl := Except.ok.inj hresult
    rw [hj]
    exact ⟨[.commitCheckEmpty (url settings) settings.librariesDir], hsteps,
      settled_empty hjvoid⟩
  · exact hsettled

/-- The names of the parameters in the request of a question. -/
theorem parameterNames_of_requested? {u : Web.Url}
    (h : Web.requested? (url settings) (params settings ref since) = some u) :
    u.parameterNames = (params settings ref since).map (·.1.toList) := by
  rw [Web.parameterNames_of_requested? (by simp [params]) h]
  refine List.map_congr_left fun p hp => ?_
  -- every name is made of letters
  have hname : p.1 ∈ ["path", "sha", "since"] := by
    cases since <;> simp only [params, List.mem_append, List.mem_cons, List.not_mem_nil] at hp <;>
      rcases hp with (rfl | rfl | hp) | hp <;> simp_all
  simp only [List.mem_cons, List.not_mem_nil, or_false] at hname
  rcases hname with h | h | h <;> rw [h] <;> decide +kernel

end Freshness

/-! ### The whole -/

open Freshness in
/-- **Where there is room for the bodies, the question comes to an end**, with redirects followed or
not. -/
theorem latestCommit_returns (hroom : web.Roomy) (settings : Settings) (follow : Bool)
    (ref : String) (since : Option String) :
    ∃ result, (latestCommit settings follow ref since web).outcome = .ok result := by
  have hunfiltered : ∀ rest : Web, rest.Roomy →
      ∃ result, (unfiltered settings follow ref rest).outcome = .ok result :=
    fun rest hrest => question_returns hrest fun _ _ => ⟨none, rfl⟩
  cases since with
  | none => exact hunfiltered web hroom
  | some time => exact question_returns hroom hunfiltered

open Freshness in
/-- **The failures that leave the question** are of the class that is not caught. -/
theorem class_of_latestCommit {e : Freshness.Failure}
    (h : (latestCommit settings follow ref since web).outcome = .error e) :
    e.class = .recursion := by
  cases since with
  | none => exact class_of_unfiltered h
  | some time => exact class_of_question h

open Freshness in
/-- **A question that comes to an end** is asked once, and once more without the time if the first
answer says nothing; what was heard last settles it. -/
theorem latestCommit_settled {result : Option Commit}
    (h : (latestCommit settings false ref since web).outcome = .ok result) :
    let again := since.isSome && (heard? settings ref since web).any Json.isVoid
    let last :=
      if again then heard? settings ref none web.next.2 else heard? settings ref since web
    ∃ verdict : List Event,
      (latestCommit settings false ref since web).steps
          = attempt settings ref since
            ++ (if again then attempt settings ref none else []) ++ verdict.map .event ∧
        Settled settings last verdict result := by
  cases since with
  | none =>
    obtain ⟨verdict, hsteps, hsettled⟩ := settled_unfiltered h
    exact ⟨verdict, by simpa [latestCommit] using hsteps, by simpa using hsettled⟩
  | some time =>
    rw [latestCommit] at h ⊢
    dsimp only at h ⊢
    rcases settled_question (unfiltered settings false ref)
      (fun _ _ he => class_of_unfiltered he) h with
      ⟨hvoid, hsteps, hresult⟩ | ⟨hvoid, verdict, hsteps, hsettled⟩
    · -- the second question is asked of the web that the first answer has left
      obtain ⟨verdict, hsecond, hsettled⟩ := settled_unfiltered hresult
      refine ⟨verdict, ?_, by simpa [hvoid] using hsettled⟩
      rw [hsteps, hsecond]
      simp [hvoid]
    · exact ⟨verdict, by simpa [hvoid] using hsteps, by simpa [hvoid] using hsettled⟩

open Freshness in
/-- **What a question for the newest commit leaves behind**, of a web whose bodies there is room
for. It does not fail.  It is asked once, and once more without the time if the first answer says
nothing; each time it is reported and there is at most one request, whose parameters are the given
ones.  What was heard last decides: the result is the commit that it describes, or else the last
step is a report that says why there is none. -/
theorem latestCommit_trace (settings : Settings) (ref : String) (since : Option String)
    (web : Web) (hroom : web.Roomy) :
    let run := latestCommit settings false ref since web
    let again := since.isSome && (heard? settings ref since web).any Json.isVoid
    let last :=
      if again then heard? settings ref none web.next.2 else heard? settings ref since web
    (∃ (result : Option Commit) (verdict : List Event),
      run.outcome = .ok result ∧
      run.steps = attempt settings ref since
          ++ (if again then attempt settings ref none else []) ++ verdict.map .event ∧
        Settled settings last verdict result) ∧
      ∀ time u, Web.requested? (url settings) (params settings ref time) = some u →
        u.parameterNames
          = "path".toList :: "sha".toList :: (time.map fun _ => "since".toList).toList := by
  refine ⟨?_, fun time u hu => ?_⟩
  · obtain ⟨result, hresult⟩ := latestCommit_returns hroom settings false ref since
    obtain ⟨verdict, hsteps, hsettled⟩ := latestCommit_settled hresult
    exact ⟨result, verdict, hresult, hsteps, hsettled⟩
  · rw [parameterNames_of_requested? hu]
    cases time <;> rfl

/-- An empty list is answered first, and a commit when the question is asked once more. -/
theorem latestCommit_trace_twice :
    let empty : Web.Answer := .reply { body := Text.encode "[]" }
    let found : Web.Answer := .reply
      { body := Text.encode
          "[\x7b\"sha\":\"a\",\"commit\":\x7b\"committer\":\x7b\"date\":\"d\"\x7d\x7d\x7d]" }
    let web : Web := { answers := [empty, found] }
    let run := latestCommit .standard false "m" (some "t") web
    web.Roomy ∧
      ∃ (result : Option Commit) (verdict : List Event),
        run.outcome = .ok result ∧
        run.steps = Freshness.attempt .standard "m" (some "t")
          ++ Freshness.attempt .standard "m" none ++ verdict.map .event ∧
        Freshness.Settled .standard (Freshness.heard? .standard "m" none web.next.2) verdict
          result := by
  intro empty found web run
  have hroom : web.Roomy := by decide +kernel
  have hvoid : (Freshness.heard? .standard "m" (some "t") web).any Json.isVoid = true := by
    decide +kernel
  obtain ⟨⟨result, verdict, hresult, hsteps, hsettled⟩, -⟩ :=
    latestCommit_trace .standard "m" (some "t") web hroom
  refine ⟨hroom, result, verdict, hresult, ?_, ?_⟩
  · simpa [hvoid] using hsteps
  · simpa [hvoid] using hsettled

/-- Without a scheme in the URL, an answer is of no use even if it describes a commit: the request
is made, and its reply is not recorded. -/
theorem latestCommit_of_path :
    let settings : Settings :=
      { apiUrl := "x", rawUrl := "https://raw.example.test/org/kernel"
        librariesDir := "libraries", defaultRef := "master" }
    let answer : Web.Answer := .reply
      { body := Text.encode
          "[\x7b\"sha\":\"a\",\"commit\":\x7b\"committer\":\x7b\"date\":\"d\"\x7d\x7d\x7d]" }
    let web : Web := { answers := [answer] }
    (∃ j, answer.json? web.room = some j ∧ Commit.Described j ⟨.str "a", .str "d"⟩) ∧
      (latestCommit settings false "m" none web).outcome.toOption = some none ∧
      (latestCommit settings false "m" none web).steps =
        [.event (.commitCheck "x/commits" [("path", "libraries"), ("sha", "m")]),
          .request "/x/commits?path=libraries&sha=m",
          .event (.commitCheckFailed "x/commits" "ValueError")] := by
  intro settings answer web
  refine ⟨⟨.arr [.obj [("sha", .str "a"),
      ("commit", .obj [("committer", .obj [("date", .str "d")])])]], ?_, ?_⟩, ?_, ?_⟩
  · cbv
  · exact ⟨_, [], _, _, rfl, rfl, rfl, rfl, rfl⟩
  · have hnone : (latestCommit settings false "m" none web).outcome.toOption.any Option.isNone
        = true := by decide +kernel
    obtain ⟨result, hresult, hisNone⟩ := (Option.any_eq_true _ _).1 hnone
    exact Option.isNone_iff_eq_none.1 hisNone ▸ hresult
  · decide +kernel

end LibraryCalls
