import LibraryCalls.Proofs.Web.Request

/-!
# What comes of a request

A client that does not follow redirects makes at most one request for a URL.  It gets JSON exactly
when the URL has a scheme and the web answers with a status from 200 to 299 and a body that is JSON.

A request that is not redirected is one step and one answer, and its outcome is decided by four
questions: whether the URL can be requested, whether the answer is a reply, whether the reply can be
recorded and has a good status, and whether its body is what was asked for.  For each of them it is
said when the answer is a good one, and the result is their conjunction.

Failures are not described further here.  Which class they belong to is the subject of
`LibraryCalls.Proofs.Web.Room`.

* `steps_get_false`, `head?_steps_get`: the requests that are made;
* `Answer.json?`, `heard?`: what an answer says, and what the client gets of it;
* `outcome_getJson_eq_ok_iff`: the client gets what the web says.
-/

namespace LibraryCalls.Web

variable {url : String} {params : List (String × String)} {u : Url} {web web' : Web}
  {room : Nat} {reply : Reply} {j : Json}

def Url.request (u : Url) : Step :=
  .request (String.ofList u.render)

/-- What an answer says where there is room for so many lists and objects inside one another: the
JSON of a reply with a status from 200 to 299.  A reply whose location is not in ASCII cannot be
read. -/
def Answer.json? (room : Nat) : Answer → Option Json
  | .failure _ => none
  | .reply reply =>
    if reply.isReadable = true ∧ 200 ≤ reply.status ∧ reply.status ≤ 299 then
      (decodeBody room reply.body).toOption
    else none

/-- What a client that does not follow redirects gets to hear of the next answer. -/
def heard? (url : String) (params : List (String × String)) (web : Web) : Option Json :=
  match requested? url params with
  | none => none
  | some u => if u.scheme = [] then none else web.next.1.json? web.room

/-! ### Replies -/

/-- What a client that does not follow redirects makes of the answer to a request. -/
def receive (u : Url) : Answer × Web → Except Failure (Reply × Web)
  | (.failure kind, _) => .error (.transport kind)
  | (.reply reply, web) => do
    let _ ← reply.next? u
    reply.check
    .ok (reply, web)

theorem Reply.check_eq_ok_iff :
    reply.check = .ok () ↔ 200 ≤ reply.status ∧ reply.status ≤ 299 := by
  rw [Reply.check]
  split <;> simp_all

theorem Reply.redirect?_of_check (h : reply.check = .ok ()) : reply.redirect? = none := by
  have hstatus := Reply.check_eq_ok_iff.1 h
  refine if_neg ?_
  simp only [isRedirect, Bool.or_eq_true, decide_eq_true_eq]
  omega

theorem Reply.next?_eq_ok_iff (h : reply.check = .ok ()) :
    (∃ target, reply.next? u = .ok target) ↔ reply.isReadable = true ∧ checkType u = .ok () := by
  rw [Reply.next?]
  cases reply.isReadable with
  | false => exact ⟨fun ⟨target, ht⟩ => (by cases ht), fun h => absurd h.1 (by decide)⟩
  | true =>
    cases hcheck : checkType u with
    | error e => exact ⟨fun ⟨target, ht⟩ => (by cases ht), fun h => (by cases h.2)⟩
    | ok _ =>
      refine ⟨fun _ => ⟨rfl, rfl⟩, fun _ => ⟨none, ?_⟩⟩
      rw [Reply.redirect?_of_check h]
      rfl

/-- **A reply is received** exactly when its status is from 200 to 299, it can be read, and the URL
of the request has a type. -/
theorem receive_reply_eq_ok_iff {rest : Web} {p : Reply × Web} :
    receive u (.reply reply, rest) = .ok p ↔
      checkType u = .ok () ∧ (reply.isReadable = true ∧ 200 ≤ reply.status ∧ reply.status ≤ 299) ∧
        (reply, rest) = p := by
  cases hcheck : reply.check with
  | error e =>
    have hstatus : ¬ (200 ≤ reply.status ∧ reply.status ≤ 299) := fun h => by
      rw [Reply.check_eq_ok_iff.2 h] at hcheck
      cases hcheck
    refine ⟨fun h => ?_, fun h => absurd h.2.1.2 hstatus⟩
    cases hnext : reply.next? u <;> simp [receive, hnext, hcheck, bind, Except.bind] at h
  | ok _ =>
    have hstatus := Reply.check_eq_ok_iff.1 hcheck
    have hnext := Reply.next?_eq_ok_iff (u := u) hcheck
    cases htarget : reply.next? u with
    | error e =>
      refine ⟨fun h => ?_, fun ⟨htype, hcounts, _⟩ => ?_⟩
      · simp [receive, htarget, bind, Except.bind] at h
      · obtain ⟨target, ht⟩ := hnext.2 ⟨hcounts.1, htype⟩
        rw [htarget] at ht
        cases ht
    | ok target =>
      obtain ⟨hread, htype⟩ := hnext.1 ⟨target, htarget⟩
      simp [receive, htarget, hcheck, hread, htype, hstatus, bind, Except.bind]

/-! ### Requests -/

/-- **A client that does not follow redirects** makes one request. -/
theorem send_false (fuel : Nat) (u : Url) (web : Web) :
    send false (fuel + 1) u web = ⟨[u.request], receive u web.next⟩ := by
  rw [send, Traced.bind_eq]
  cases web.next with
  | mk answer rest =>
    cases answer with
    | failure kind => rfl
    | reply reply =>
      cases htarget : reply.next? u with
      | error e => simp only [receive, htarget]; rfl
      | ok target =>
        cases hcheck : reply.check with
        | error e => cases target <;> simp only [receive, htarget, hcheck] <;> rfl
        | ok _ => cases target <;> simp only [receive, htarget, hcheck] <;> rfl

/-- The first request of a client that follows redirects is the same. -/
theorem head?_steps_send (follow : Bool) (fuel : Nat) (u : Url) (web : Web) :
    (send follow (fuel + 1) u web).steps.head? = some u.request := rfl

/-- There is a request only of the URL that the text and the parameters make. -/
theorem get_cases (follow : Bool) (url : String) (params : List (String × String)) (web : Web) :
    (requested? url params = none ∧ ∃ e, get follow url params web = Traced.fail e) ∨
      ∃ u, requested? url params = some u ∧ target? url params = some u ∧
        get follow url params web = send follow maxRequests u web := by
  rw [requested?, get]
  cases target? url params with
  | none => exact .inl ⟨rfl, _, rfl⟩
  | some u =>
    by_cases hascii : Domain.Label.isAscii u.host = true
    · refine .inr ⟨u, ?_, rfl, if_pos hascii⟩
      simp [hascii]
    · refine .inl ⟨?_, .unencodable, if_neg hascii⟩
      simp [hascii]

theorem head?_steps_get (follow : Bool) (url : String) (params : List (String × String))
    (web : Web) :
    (get follow url params web).steps.head? = (requested? url params).map Url.request := by
  rcases get_cases follow url params web with ⟨hnone, e, hget⟩ | ⟨u, hsome, -, hget⟩
  · rw [hnone, hget]
    rfl
  · rw [hsome, hget, maxRequests, head?_steps_send]
    rfl

theorem steps_get_false (url : String) (params : List (String × String)) (web : Web) :
    (get false url params web).steps = (requested? url params).toList.map Url.request := by
  rcases get_cases false url params web with ⟨hnone, e, hget⟩ | ⟨u, hsome, -, hget⟩
  · rw [hnone, hget]
    rfl
  · rw [hsome, hget, maxRequests, send_false]
    rfl

/-- What is done with a body is no step. -/
theorem steps_getText (follow : Bool) (url : String) (web : Web) :
    (getText follow url web).steps = (get follow url [] web).steps := by
  rw [getText, Traced.bind_eq]
  cases (get follow url [] web).outcome with
  | error e => rfl
  | ok p => exact List.append_nil _

theorem steps_getJson (follow : Bool) (url : String) (params : List (String × String))
    (web : Web) :
    (getJson follow url params web).steps = (get follow url params web).steps := by
  rw [getJson, Traced.bind_eq]
  cases (get follow url params web).outcome with
  | error e => rfl
  | ok p =>
    cases hbody : decodeBody web.room p.1.body with
    | error e => simp only [Traced.bind_eq, Traced.ofExcept, hbody, List.append_nil]
    | ok j => simp only [Traced.bind_eq, Traced.ofExcept, hbody, Traced.steps_pure, List.append_nil]

/-! ### JSON -/

/-- A reply is received with its JSON exactly when that is what the answer says. -/
theorem receive_json_iff {u : Url} (htype : checkType u = .ok ()) (answer : Answer × Web) :
    (∃ p, receive u answer = .ok p ∧ decodeBody room p.1.body = .ok j ∧ p.2 = web') ↔
      answer.1.json? room = some j ∧ answer.2 = web' := by
  obtain ⟨answer, rest⟩ := answer
  cases answer with
  | failure kind => exact ⟨fun ⟨p, hp, _⟩ => (by cases hp), fun h => (by cases h.1)⟩
  | reply reply =>
    simp only [receive_reply_eq_ok_iff, htype, true_and, Answer.json?]
    split
    · next hcounts =>
      have hbody : (decodeBody room reply.body).toOption = some j ↔
          decodeBody room reply.body = .ok j := by
        cases decodeBody room reply.body <;> simp [Except.toOption]
      rw [hbody]
      exact ⟨fun ⟨_, ⟨_, rfl⟩, h⟩ => h, fun h => ⟨_, ⟨hcounts, rfl⟩, h⟩⟩
    · next hcounts => exact ⟨fun ⟨p, ⟨h, _⟩, _⟩ => absurd h hcounts, fun h => (by cases h.1)⟩

/-- **The client gets what the web says**, if the URL that it requests has a scheme. -/
theorem outcome_getJson_eq_ok_iff :
    (getJson false url params web).outcome = .ok (j, web') ↔
      heard? url params web = some j ∧ web.next.2 = web' := by
  have hbody : ∀ p : Reply × Web, (do
      let j ← Traced.ofExcept (decodeBody web.room p.1.body)
      pure (j, p.2) : Run (Json × Web)).outcome = .ok (j, web') ↔
        decodeBody web.room p.1.body = .ok j ∧ p.2 = web' := by
    intro p
    simp only [Traced.outcome_bind_eq_ok_iff, Traced.ofExcept, Traced.outcome_pure,
      Except.ok.injEq, Prod.mk.injEq]
    exact ⟨fun ⟨_, h, rfl, hw⟩ => ⟨h, hw⟩, fun ⟨h, hw⟩ => ⟨j, h, rfl, hw⟩⟩
  rw [getJson, Traced.outcome_bind_eq_ok_iff, heard?]
  rcases get_cases false url params web with ⟨hnone, e, hget⟩ | ⟨u, hsome, htarget, hget⟩
  · rw [hget, hnone]
    exact ⟨fun ⟨p, hp, _⟩ => (by cases hp), fun h => (by cases h.1)⟩
  · rw [hget, hsome, maxRequests, send_false]
    have hcheck := checkType_eq_ok_iff htarget
    by_cases hscheme : u.scheme = []
    · refine ⟨fun ⟨p, hp, _⟩ => ?_, fun h => ?_⟩
      · cases hnext : web.next with
        | mk answer rest =>
          simp only [hnext] at hp
          cases answer with
          | failure kind => cases hp
          | reply reply =>
            exact absurd hscheme (hcheck.1 (receive_reply_eq_ok_iff.1 hp).1)
      · simp [hscheme] at h
    · simp only [if_neg hscheme, ← receive_json_iff (hcheck.2 hscheme)]
      exact ⟨fun ⟨p, hp, h⟩ => ⟨p, hp, (hbody p).1 h⟩, fun ⟨p, hp, h⟩ => ⟨p, hp, (hbody p).2 h⟩⟩

end LibraryCalls.Web
