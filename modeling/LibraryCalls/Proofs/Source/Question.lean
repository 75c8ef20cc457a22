import LibraryCalls.Proofs.Source.Freshness
import LibraryCalls.Proofs.Web.Hops
import LibraryCalls.Proofs.Web.Reading

/-!
# What the question for the newest commit asks

However the directory, the reference and the time are spelled, the repository reads them from the
request as they are given: none of their characters ends a parameter, begins another one or cuts the
query short.  Only where a server sends the client on does a request ask something else.

Each request is followed on its way into a text and back.  Parameters are escaped in such a way that
a reader of forms finds them as they were, and the mark before a fragment is in the request only if
the configured address brings one in.  What the repository is asked for, apart from the parameters,
is read off from the address alone and does not change with the directory, the reference or the
time.

With redirects followed, each further request is for a URL that some reply has led to, which the
client did not choose.  A URL that gets too long is not requested at all.

* `Asking`, `Asking.Sound`: one asking of the question, and what its requests are;
* `Asks`: steps that are made of askings, each with a time or without, and of reports at the end;
* `exists_asking`, `asks_unfiltered`: the question asked once, and the question without a time;
* `latestCommit_asks`: the whole question;
* `latestCommit_sent_on`: a client that follows redirects asks what a server tells it to ask.
-/

namespace LibraryCalls

variable {settings : Settings} {ref : String} {since : Option String} {follow : Bool}
  {web rest : Web}

namespace Freshness

/-- One asking of the question: the time that is given, and the URLs that are requested in turn. -/
structure Asking where
  since : Option String
  urls : List Web.Url

namespace Asking

/-- The steps of an asking: it is reported, and the requests are made. -/
def steps (settings : Settings) (ref : String) (a : Asking) : List Web.Step :=
  .event (.commitCheck (url settings) (params settings ref a.since)) :: a.urls.map Web.Url.request

/-- What the requests of an asking are.  The first one is for what is asked of the repository, with
the parameters for its query, unless they are too long for a URL.  A server reads the parameters
back from its text as they are given, and a fragment is not in it unless the settings bring one in.
Every other request is for a URL that a reply has sent the client on to. -/
structure Sound (settings : Settings) (ref : String) (follow : Bool) (web : Web) (a : Asking) :
    Prop where
  first : a.urls.head? =
    let query := Web.Url.queryOf (params settings ref a.since)
    if query.length ≤ Web.Url.maxLength then
      (Web.resource? (url settings)).map fun u => { u with query := some query }
    else none
  fields : ∀ u, a.urls.head? = some u →
    Web.fieldsOf (String.ofList u.render) =
      ["path", settings.librariesDir] :: ["sha", ref] ::
        (a.since.map fun time => ["since", time]).toList
  fragment : '#' ∉ settings.apiUrl.toList → ∀ u, a.urls.head? = some u →
    (Web.Written.ofText u.render).fragment = none
  hops : a.urls.IsChain (Web.Leads web)
  alone : follow = false → a.urls.length ≤ 1

theorem Sound.mono {a : Asking} (hsub : rest.answers ⊆ web.answers)
    (h : a.Sound settings ref follow rest) : a.Sound settings ref follow web :=
  { h with hops := h.hops.imp fun _ _ => Web.Leads.mono hsub }

end Asking

/-- Steps that are those of an asking for each of the given times, and of reports after them. -/
def Asks (settings : Settings) (ref : String) (follow : Bool) (web : Web)
    (times : List (Option String)) (steps : List Web.Step) : Prop :=
  ∃ (askings : List Asking) (verdict : List Event),
    steps = askings.flatMap (Asking.steps settings ref) ++ verdict.map .event ∧
      askings.map Asking.since = times ∧ ∀ a ∈ askings, a.Sound settings ref follow web

theorem asks_verdict (verdict : List Event) :
    Asks settings ref follow web [] (verdict.map .event) :=
  ⟨[], verdict, rfl, rfl, fun _ h => absurd h List.not_mem_nil⟩

/-- What is asked after an asking is asked of what is left of the web. -/
theorem Asking.Sound.asks {a : Asking} {times : List (Option String)} {steps : List Web.Step}
    (ha : a.Sound settings ref follow web) (hsub : rest.answers ⊆ web.answers)
    (h : Asks settings ref follow rest times steps) :
    Asks settings ref follow web (a.since :: times) (a.steps settings ref ++ steps) := by
  obtain ⟨askings, verdict, rfl, rfl, hsound⟩ := h
  refine ⟨a :: askings, verdict, ?_, rfl, ?_⟩
  · rw [List.flatMap_cons, List.append_assoc]
  · intro b hb
    rcases List.mem_cons.1 hb with rfl | hb
    · exact ha
    · exact (hsound b hb).mono hsub

/-- One asking, and what is reported of it. -/
theorem Asking.Sound.asks_once {a : Asking} (ha : a.Sound settings ref follow web)
    (verdict : List Event) :
    Asks settings ref follow web [a.since] (a.steps settings ref ++ verdict.map .event) :=
  ha.asks (List.Subset.refl _) (asks_verdict verdict)

theorem params_ne_nil (settings : Settings) (ref : String) (since : Option String) :
    params settings ref since ≠ [] :=
  List.cons_ne_nil _ _

theorem map_params (settings : Settings) (ref : String) (since : Option String) :
    (params settings ref since).map (fun p => [p.1, p.2]) =
      ["path", settings.librariesDir] :: ["sha", ref] ::
        (since.map fun time => ["since", time]).toList := by
  cases since <;> rfl

theorem not_mem_url (h : '#' ∉ settings.apiUrl.toList) : '#' ∉ (url settings).toList := by
  rw [url, String.toList_append]
  intro hmem
  rcases List.mem_append.1 hmem with hmem | hmem
  · exact h hmem
  · exact absurd hmem (by decide)

/-- **The question asked once.** -/
theorem exists_asking (settings : Settings) (follow : Bool) (ref : String) (since : Option String)
    (web : Web) :
    (∃ a : Asking, a.since = since ∧
        (ask settings follow ref since web).steps = a.steps settings ref ∧
        a.Sound settings ref follow web) ∧
      ∀ p, (ask settings follow ref since web).outcome = .ok p → p.2.answers ⊆ web.answers := by
  have hne := params_ne_nil settings ref since
  obtain ⟨⟨urls, hsteps, hhead, hchain, halone⟩, hleft⟩ :=
    Web.exists_hops_getJson follow (url settings) (params settings ref since) web
  refine ⟨⟨⟨since, urls⟩, rfl, ?_, ?_⟩, ?_⟩
  · rw [ask, Traced.steps_bind_ok rfl, hsteps]
    rfl
  · refine ⟨?_, ?_, ?_, hchain, halone⟩
    · exact hhead.trans (Web.requested?_eq hne)
    · intro u hu
      rw [← map_params]
      exact Web.fieldsOf_of_requested? hne (hhead.symm.trans hu)
    · intro hmark u hu
      have htarget := (Option.filter_eq_some_iff.1 (hhead.symm.trans hu)).1
      obtain ⟨hreadable, hfragment⟩ := Web.readable_of_target? htarget
      rw [(Web.Written.query_ofText_render hreadable).2]
      exact hfragment (not_mem_url hmark)
  · intro p hp
    rw [ask, Traced.outcome_bind_ok rfl] at hp
    exact hleft p hp

/-- **The steps of a question** are those of the client, and then a report at most, or what is done
when the answer says nothing. -/
theorem steps_question (settings : Settings) (follow : Bool) (ref : String)
    (since : Option String) (next : Web → Run) (web : Web)
    (hnext : ∀ rest e, (next rest).outcome = .error e → e.class = .recursion) :
    (∃ verdict : List Event, (question settings follow ref since next web).steps
        = (ask settings follow ref since web).steps ++ verdict.map .event) ∨
      ∃ j left, (ask settings follow ref since web).outcome = .ok (j, left) ∧
        (question settings follow ref since next web).steps
          = (ask settings follow ref since web).steps ++ (next left).steps := by
  cases hask : (ask settings follow ref since web).outcome with
  | error e =>
    by_cases hclass : e.class = .recursion
    · rw [question_of_exhausted hask hclass]
      exact .inl ⟨[], (List.append_nil _).symm⟩
    · rw [question_of_failure hask hclass]
      exact .inl ⟨[_], rfl⟩
  | ok p =>
    obtain ⟨j, left⟩ := p
    cases hvoid : j.isVoid with
    | true =>
      rw [question_of_void hask hvoid (hnext left)]
      exact .inr ⟨j, left, rfl, rfl⟩
    | false =>
      cases hc : Commit.ofJson j with
      | ok c =>
        rw [question_of_commit hask hvoid hc]
        exact .inl ⟨[], (List.append_nil _).symm⟩
      | error fault =>
        rw [question_of_shape hask hvoid hc]
        exact .inl ⟨[_], rfl⟩

/-- **The question without a time** is asked once. -/
theorem asks_unfiltered (settings : Settings) (follow : Bool) (ref : String) (web : Web) :
    Asks settings ref follow web [none] (unfiltered settings follow ref web).steps := by
  obtain ⟨⟨⟨since, urls⟩, rfl, hasked, hsound⟩, -⟩ := exists_asking settings follow ref none web
  rw [unfiltered]
  rcases steps_question settings follow ref none (reportEmpty settings) web
      (fun _ _ he => (by cases he)) with ⟨verdict, hsteps⟩ | ⟨j, left, -, hsteps⟩
  · rw [hsteps, hasked]
    exact hsound.asks_once verdict
  · rw [hsteps, hasked]
    exact hsound.asks_once [_]

end Freshness

open Freshness in
/-- **What the question for the newest commit asks.**  It is asked once, or, if a time is given,
perhaps twice: with the time and then without.  Each time it is reported and requests are made, of
which the first, if there is one, asks for what is given, the time included in the first asking
only; the others are made where a reply has sent the client on.  Nothing else is done but to report
what came of it. -/
theorem latestCommit_asks (settings : Settings) (ref : String) (since : Option String)
    (follow : Bool) (web : Web) :
    ∃ times, (times = [since] ∨ since.isSome ∧ times = [since, none]) ∧
      Asks settings ref follow web times (latestCommit settings follow ref since web).steps := by
  cases since with
  | none => exact ⟨[none], .inl rfl, asks_unfiltered settings follow ref web⟩
  | some time =>
    obtain ⟨⟨⟨_, urls⟩, rfl, hasked, hsound⟩, hleft⟩ :=
      exists_asking settings follow ref (some time) web
    rw [latestCommit]
    rcases steps_question settings follow ref (some time) (unfiltered settings follow ref) web
        (fun _ _ he => class_of_unfiltered he) with ⟨verdict, hsteps⟩ | ⟨j, left, hask, hsteps⟩
    · rw [hsteps, hasked]
      exact ⟨_, .inl rfl, hsound.asks_once verdict⟩
    · -- the question is asked again, of the web that the first answer has left
      rw [hsteps, hasked]
      exact ⟨_, .inr ⟨rfl, rfl⟩, hsound.asks (hleft _ hask) (asks_unfiltered ..)⟩

/-- Separators, a number sign, a plus sign, a line break and a letter beyond ASCII, asked twice. -/
example :
    (latestCommit { Settings.standard with librariesDir := "a&b=c" } false "x#y+z é\n" (some "t 1")
        { answers := [.reply { body := Text.encode "[]" }] }).steps.filterMap Web.Step.request? =
      ["https://api.github.com/repos/Kotlin/kotlin-jupyter/commits"
          ++ "?path=a%26b%3Dc&sha=x%23y%2Bz+%C3%A9%0A&since=t+1",
        "https://api.github.com/repos/Kotlin/kotlin-jupyter/commits"
          ++ "?path=a%26b%3Dc&sha=x%23y%2Bz+%C3%A9%0A"] := by decide +kernel

/-- A client that follows redirects makes a request without any parameters if a server tells it
to. -/
theorem latestCommit_sent_on :
    (latestCommit .standard true "m" none
        { answers :=
            [.reply { status := 302, location := some "https://api.github.com/moved" },
              .reply { body := Text.encode "[]" }] }).steps =
      [.event (.commitCheck "https://api.github.com/repos/Kotlin/kotlin-jupyter/commits"
          [("path", "libraries"), ("sha", "m")]),
        .request
          "https://api.github.com/repos/Kotlin/kotlin-jupyter/commits?path=libraries&sha=m",
        .request "https://api.github.com/moved",
        .event (.commitCheckEmpty "https://api.github.com/repos/Kotlin/kotlin-jupyter/commits"
          "libraries")] ∧
      Web.fieldsOf "https://api.github.com/moved" ≠ [["path", "libraries"], ["sha", "m"]] := by
  refine ⟨?_, ?_⟩
  · decide +kernel
  · decide +kernel

end LibraryCalls
