import LibraryCalls.Proofs.Json.Nesting
import LibraryCalls.Proofs.Web.Hops

/-!
# Requests with room for the replies

Of all the ways in which a request can fail there is one that is no fault of the request or the
reply: the body is nested more deeply than there is room for.  It comes of reading the body and of
nothing else, so a request of a web has it only if one of the answers of this web has such a body.

A request leaves a web with some of its answers gone and with the room that it had, so that what
holds for the bodies of a web holds for the bodies of what is left of it.

* `Roomy`: a web with room for all of its bodies; `roomy_of_countP_le`: one with few brackets in
  them;
* `Left`: what is left of a web after requests;
* `Ends`, `ends_send`, `ends_get`: how a request ends;
* `getJson_of_roomy`: how it ends where there is room.
-/

namespace LibraryCalls.Web

variable {web rest : Web}

/-- There is room for each body of the web. -/
def Roomy (web : Web) : Prop :=
  ∀ reply text, .reply reply ∈ web.answers → Json.decodeOctets? reply.body = some text →
    Json.exhausts web.room text = false

/-- Whether there is room for the body of an answer, if it has one. -/
def Answer.fits (room : Nat) : Answer → Bool
  | .failure _ => true
  | .reply r => (Json.decodeOctets? r.body).all fun text => !Json.exhausts room text

theorem roomy_iff : web.Roomy ↔ ∀ answer ∈ web.answers, answer.fits web.room = true := by
  constructor
  · intro h answer hmem
    cases answer with
    | failure kind => rfl
    | reply reply =>
      rw [Answer.fits, Option.all_eq_true]
      intro text htext
      rw [h reply text hmem htext]
      rfl
  · intro h reply text hmem htext
    have hfits := h _ hmem
    rw [Answer.fits, htext, Option.all_some] at hfits
    simpa using hfits

instance (web : Web) : Decidable web.Roomy :=
  decidable_of_iff _ roomy_iff.symm

/-- **There is room for bodies with few brackets.** -/
theorem roomy_of_countP_le
    (h : ∀ reply text, .reply reply ∈ web.answers → Json.decodeOctets? reply.body = some text →
      text.countP Json.opens ≤ web.room) : web.Roomy :=
  fun reply text hmem htext => Json.exhausts_of_countP_le (h reply text hmem htext)

/-- A body that begins with more brackets than there is room for is not read. -/
theorem decodeBody_brackets {room : Nat} {body : Text.Octets} {behind : CodePoints}
    (h : Json.decodeOctets? body = some (Json.brackets (room + 1) ++ behind)) :
    decodeBody room body = .error .exhausted := by
  rw [decodeBody, h]
  exact if_pos (Json.exhausts_brackets room behind)

/-- What is left of a web after requests: no answers but those that were there, and its room. -/
structure Left (rest web : Web) : Prop where
  answers : rest.answers ⊆ web.answers
  room : rest.room = web.room

theorem Left.trans {middle : Web} (h : Left rest middle) (h' : Left middle web) : Left rest web :=
  ⟨List.Subset.trans h.answers h'.answers, h.room.trans h'.room⟩

theorem Roomy.of_left (h : web.Roomy) (hleft : Left rest web) : rest.Roomy := by
  intro reply text hmem htext
  rw [hleft.room]
  exact h reply text (hleft.answers hmem) htext

theorem left_of_next {answer : Answer} (h : web.next = (answer, rest)) : Left rest web := by
  obtain ⟨answers, room⟩ := web
  rw [next] at h
  dsimp only at h
  split at h <;> obtain ⟨-, rfl⟩ := Prod.mk.inj h
  · exact ⟨List.Subset.refl _, rfl⟩
  · exact ⟨List.Subset.refl _, rfl⟩
  · exact ⟨List.subset_cons_self _ _, rfl⟩

/-! ### Failures of replies -/

theorem RedirectFault.class_ne (fault : RedirectFault) : fault.class ≠ .recursion := by
  cases fault <;> exact fun hclass => (by cases hclass)

/-- A reply fails for what it is, not for want of room. -/
theorem Reply.class_of_next? {reply : Reply} {u : Url} {e : Failure}
    (h : reply.next? u = .error e) : e.class ≠ .recursion := by
  rw [Reply.next?] at h
  cases hread : reply.isReadable with
  | false =>
    simp only [hread, Bool.not_false, if_true, bind, Except.bind] at h
    obtain rfl := Except.error.inj h
    decide
  | true =>
    cases htype : checkType u with
    | error e' =>
      simp only [hread, htype, Bool.not_true, Bool.false_eq_true, if_false, bind,
        Except.bind] at h
      obtain rfl := Except.error.inj h
      rw [checkType] at htype
      dsimp only at htype
      split at htype
      · cases htype
      · obtain rfl := Except.error.inj htype
        exact fun hclass => (by cases hclass)
    | ok _ =>
      simp only [hread, htype, Bool.not_true, Bool.false_eq_true, if_false, bind,
        Except.bind] at h
      split at h
      · cases h
      · next location _ =>
        cases hredirect : u.redirect location.toList with
        | ok v =>
          rw [hredirect] at h
          cases h
        | error fault =>
          rw [hredirect] at h
          obtain rfl := Except.error.inj h
          exact RedirectFault.class_ne fault

theorem Reply.class_of_check {reply : Reply} {e : Failure} (h : reply.check = .error e) :
    e.class ≠ .recursion := by
  rw [Reply.check] at h
  split at h
  · cases h
  · obtain rfl := Except.error.inj h
    exact fun hclass => (by cases hclass)

/-! ### How a request ends -/

/-- A request ends with a failure that is not for want of room, or with a reply of the web. -/
def Ends (web : Web) : Except Failure (Reply × Web) → Prop
  | .error e => e.class ≠ .recursion
  | .ok (reply, rest) => .reply reply ∈ web.answers ∧ Left rest web

theorem Ends.of_left {outcome : Except Failure (Reply × Web)} (h : Ends rest outcome)
    (hleft : Left rest web) : Ends web outcome := by
  match outcome, h with
  | .error e, h => exact h
  | .ok (reply, later), h => exact ⟨hleft.answers h.1, h.2.trans hleft⟩

/-- **How a request ends**, with all those that it turns into. -/
theorem ends_send (follow : Bool) (fuel : Nat) (u : Url) (web : Web) :
    Ends web (send follow fuel u web).outcome := by
  induction fuel generalizing u web with
  | zero => exact (by decide : Failure.class .tooManyRedirects ≠ .recursion)
  | succ fuel ih =>
    rw [send, Traced.outcome_bind_ok rfl]
    cases hnext : web.next with
    | mk answer rest =>
      have hleft := left_of_next hnext
      cases answer with
      | failure kind => exact fun hclass => (by cases hclass)
      | reply reply =>
        have hmem := (mem_of_next hnext).1
        have hcheck : Ends web (Traced.ofExcept reply.check >>= fun _ => pure (reply, rest) :
            Run (Reply × Web)).outcome := by
          cases hstatus : reply.check with
          | error e => exact Reply.class_of_check hstatus
          | ok _ => exact ⟨hmem, hleft⟩
        dsimp only
        cases htarget : reply.next? u with
        | error e => exact Reply.class_of_next? htarget
        | ok target =>
          cases target with
          | none => exact hcheck
          | some v =>
            cases follow with
            | false => exact hcheck
            | true => exact (ih v rest).of_left hleft

theorem ends_get (follow : Bool) (url : String) (params : List (String × String)) (web : Web) :
    Ends web (get follow url params web).outcome := by
  rw [get]
  split
  · exact (by decide : Failure.class .invalidUrl ≠ .recursion)
  · split
    · exact ends_send follow maxRequests _ web
    · exact (by decide : Failure.class .unencodable ≠ .recursion)

/-- **A body is read where there is room for it**, or it fails for what it is. -/
theorem class_of_decodeBody {room : Nat} {body : Text.Octets} {e : Failure}
    (hroom : ∀ text, Json.decodeOctets? body = some text → Json.exhausts room text = false)
    (h : decodeBody room body = .error e) : e.class ≠ .recursion := by
  rw [decodeBody] at h
  split at h
  · obtain rfl := Except.error.inj h
    decide
  · next text htext =>
    rw [if_neg (by rw [hroom text htext]; decide)] at h
    split at h
    · obtain rfl := Except.error.inj h
      decide
    · obtain rfl := Except.error.inj h
      decide
    · cases h

/-- **Where there is room**, a request for JSON fails for what is asked or answered, and it leaves a
web where there is room. -/
theorem getJson_of_roomy (hroom : web.Roomy) (follow : Bool) (url : String)
    (params : List (String × String)) :
    (∀ e, (getJson follow url params web).outcome = .error e → e.class ≠ .recursion) ∧
      ∀ p, (getJson follow url params web).outcome = .ok p → p.2.Roomy := by
  have hends := ends_get follow url params web
  rw [getJson]
  cases hget : (get follow url params web).outcome with
  | error e =>
    rw [hget] at hends
    rw [Traced.outcome_bind_error hget]
    exact ⟨fun e' he' => Except.error.inj he' ▸ hends, fun p hp => (by cases hp)⟩
  | ok p =>
    obtain ⟨reply, rest⟩ := p
    rw [hget] at hends
    rw [Traced.outcome_bind_ok hget]
    cases hbody : decodeBody web.room reply.body with
    | error e =>
      refine ⟨fun e' he' => ?_,
        fun p hp => (by simp [Traced.bind_eq, Traced.ofExcept, hbody] at hp)⟩
      simp only [Traced.bind_eq, Traced.ofExcept, hbody, Except.error.injEq] at he'
      exact he' ▸ class_of_decodeBody (fun text => hroom reply text hends.1) hbody
    | ok j =>
      refine ⟨fun e he => (by simp [Traced.bind_eq, Traced.ofExcept, hbody] at he), fun p hp => ?_⟩
      simp only [Traced.bind_eq, Traced.ofExcept, hbody, Traced.outcome_pure,
        Except.ok.injEq] at hp
      exact hp ▸ hroom.of_left hends.2

end LibraryCalls.Web
