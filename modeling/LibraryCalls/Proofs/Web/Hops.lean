import LibraryCalls.Proofs.Web.Exchange
import Mathlib.Data.List.Chain

/-!
# Where a request leads

A client that follows redirects makes more than one request for a URL.  The first is the same as
without, and each other one is made because a reply sent the client on to it from the one before.

A run of requests is cut into single ones: after each request the run ends, or it goes on with what
is left of the web and with the URL that the reply has led to.  The requests of the whole run are
thus a chain in which every link is due to a reply of the web, for as many requests as the client
makes at most.

Nothing is said about where a reply may lead, since that is for the server to decide.

* `Leads`: a reply of the web sends the client on from one URL to another;
* `send_succ_cases`: one request of a run, with which the run ends or goes on elsewhere;
* `exists_hops_send`, `exists_hops_getJson`: the requests of a whole run.
-/

namespace LibraryCalls.Web

variable {web rest : Web} {u v : Url} {reply : Reply}

/-- A reply of the web sends the client on from one URL to another. -/
def Leads (web : Web) (u v : Url) : Prop :=
  ∃ reply location, .reply reply ∈ web.answers ∧ reply.redirect? = some location ∧
    u.redirect location.toList = .ok v

theorem Leads.mono (hsub : rest.answers ⊆ web.answers) (h : Leads rest u v) : Leads web u v := by
  obtain ⟨reply, location, hmem, hlocation, hredirect⟩ := h
  exact ⟨reply, location, hsub hmem, hlocation, hredirect⟩

theorem mem_of_next (h : web.next = (.reply reply, rest)) :
    .reply reply ∈ web.answers ∧ rest.answers ⊆ web.answers := by
  obtain ⟨answers⟩ := web
  rw [next] at h
  dsimp only at h ⊢
  split at h
  · cases h
  · obtain ⟨rfl, rfl⟩ := Prod.mk.inj h
    exact ⟨List.mem_singleton_self _, List.Subset.refl _⟩
  · obtain ⟨rfl, rfl⟩ := Prod.mk.inj h
    exact ⟨List.mem_cons_self, List.subset_cons_self _ _⟩

theorem Reply.exists_location (h : reply.next? u = .ok (some v)) :
    ∃ location, reply.redirect? = some location ∧ u.redirect location.toList = .ok v := by
  rw [Reply.next?] at h
  cases hread : reply.isReadable with
  | false => simp [hread, bind, Except.bind] at h
  | true =>
    cases htype : checkType u with
    | error e => simp [hread, htype, bind, Except.bind] at h
    | ok _ =>
      cases hlocation : reply.redirect? with
      | none => simp [hread, htype, hlocation, bind, Except.bind] at h
      | some location =>
        refine ⟨location, rfl, ?_⟩
        simp only [hread, htype, hlocation, bind, Except.bind, Bool.not_true, Bool.false_eq_true,
          if_false] at h
        cases hredirect : u.redirect location.toList with
        | error e =>
          rw [hredirect] at h
          cases h
        | ok target =>
          rw [hredirect] at h
          exact congrArg Except.ok (Option.some.inj (Except.ok.inj h))

/-- **One request of a run**: the run ends with it, or the client goes on to the URL that it is sent
on to. -/
theorem send_succ_cases (follow : Bool) (fuel : Nat) (u : Url) (web : Web) :
    ((send follow (fuel + 1) u web).steps = [u.request] ∧
        ∀ p, (send follow (fuel + 1) u web).outcome = .ok p → p.2.answers ⊆ web.answers) ∨
      ∃ v rest, follow = true ∧ Leads web u v ∧ rest.answers ⊆ web.answers ∧
        send follow (fuel + 1) u web
          = ⟨u.request :: (send follow fuel v rest).steps, (send follow fuel v rest).outcome⟩ := by
  cases hnext : web.next with
  | mk answer rest =>
    cases answer with
    | failure kind =>
      rw [send, hnext]
      exact .inl ⟨rfl, fun p hp => (by cases hp)⟩
    | reply reply =>
      obtain ⟨hmem, hsub⟩ := mem_of_next hnext
      have hcheck : ∀ p, (Traced.ofExcept reply.check >>= fun _ => pure (reply, rest) :
          Run (Reply × Web)).outcome = .ok p → p.2.answers ⊆ web.answers := by
        intro p hp
        obtain ⟨-, -, hp⟩ := Traced.outcome_bind_eq_ok_iff.1 hp
        exact Except.ok.inj hp ▸ hsub
      rw [send, hnext]
      dsimp only
      cases htarget : reply.next? u with
      | error e => exact .inl ⟨rfl, fun p hp => (by cases hp)⟩
      | ok target =>
        cases target with
        | none =>
          refine .inl ⟨?_, fun p hp => hcheck p hp⟩
          cases reply.check <;> rfl
        | some v =>
          cases follow with
          | false =>
            refine .inl ⟨?_, fun p hp => hcheck p hp⟩
            cases reply.check <;> rfl
          | true =>
            obtain ⟨location, hlocation, hredirect⟩ := Reply.exists_location htarget
            exact .inr ⟨v, rest, rfl, ⟨reply, location, hmem, hlocation, hredirect⟩, hsub, rfl⟩

/-- **The requests of a run**: the first is for the URL itself, and each other one for the URL that
the one before it leads to.  A client that does not follow redirects makes no other. -/
theorem exists_hops_send (follow : Bool) (fuel : Nat) (u : Url) (web : Web) :
    (∃ hops, (send follow (fuel + 1) u web).steps = (u :: hops).map Url.request ∧
        (u :: hops).IsChain (Leads web) ∧ (follow = false → hops = [])) ∧
      ∀ p, (send follow (fuel + 1) u web).outcome = .ok p → p.2.answers ⊆ web.answers := by
  induction fuel generalizing u web with
  | zero =>
    rcases send_succ_cases follow 0 u web with ⟨hsteps, hleft⟩ | ⟨v, rest, -, -, -, hsend⟩
    · exact ⟨⟨[], hsteps, .singleton u, fun _ => rfl⟩, hleft⟩
    · rw [hsend]
      exact ⟨⟨[], rfl, .singleton u, fun _ => rfl⟩, fun p hp => (by cases hp)⟩
  | succ fuel ih =>
    rcases send_succ_cases follow (fuel + 1) u web with
      ⟨hsteps, hleft⟩ | ⟨v, rest, hfollow, hleads, hsub, hsend⟩
    · exact ⟨⟨[], hsteps, .singleton u, fun _ => rfl⟩, hleft⟩
    · obtain ⟨⟨hops, hsteps, hchain, -⟩, hleft⟩ := ih v rest
      rw [hsend]
      refine ⟨⟨v :: hops, ?_, ?_, ?_⟩, fun p hp => List.Subset.trans (hleft p hp) hsub⟩
      · show u.request :: (send follow (fuel + 1) v rest).steps = _
        rw [hsteps]
        rfl
      · exact List.isChain_cons_cons.2 ⟨hleads, hchain.imp fun _ _ => Leads.mono hsub⟩
      · intro hfalse
        exact absurd (hfollow.symm.trans hfalse) (by decide)

/-- **The requests for a JSON value**: the first, if any, is for the URL that the text and the
parameters make. -/
theorem exists_hops_getJson (follow : Bool) (url : String) (params : List (String × String))
    (web : Web) :
    (∃ urls : List Url, (getJson follow url params web).steps = urls.map Url.request ∧
        urls.head? = requested? url params ∧ urls.IsChain (Leads web) ∧
        (follow = false → urls.length ≤ 1)) ∧
      ∀ p, (getJson follow url params web).outcome = .ok p → p.2.answers ⊆ web.answers := by
  have hjson : ∀ p, (getJson follow url params web).outcome = .ok p →
      ∃ reply, (get follow url params web).outcome = .ok (reply, p.2) := by
    intro p hp
    obtain ⟨⟨reply, rest⟩, hget, hp⟩ := Traced.outcome_bind_eq_ok_iff.1 hp
    obtain ⟨j, -, hp⟩ := Traced.outcome_bind_eq_ok_iff.1 hp
    exact ⟨reply, Except.ok.inj hp ▸ hget⟩
  rw [steps_getJson]
  rcases get_cases follow url params web with ⟨hnone, e, hget⟩ | ⟨u, hsome, -, hget⟩
  · rw [hget] at hjson ⊢
    refine ⟨⟨[], rfl, hnone.symm, .nil, fun _ => Nat.zero_le 1⟩, fun p hp => ?_⟩
    obtain ⟨reply, hfail⟩ := hjson p hp
    cases hfail
  · obtain ⟨⟨hops, hsteps, hchain, hnone⟩, hleft⟩ := exists_hops_send follow 20 u web
    rw [hget] at hjson ⊢
    refine ⟨⟨u :: hops, hsteps, hsome.symm, hchain, fun hfalse => ?_⟩, fun p hp => ?_⟩
    · rw [hnone hfalse]
      exact Nat.le_refl 1
    · obtain ⟨reply, hsend⟩ := hjson p hp
      exact hleft _ hsend

end LibraryCalls.Web
