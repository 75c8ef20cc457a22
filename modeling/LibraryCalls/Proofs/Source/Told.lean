import LibraryCalls.Proofs.Source.Freshness

/-!
# What is told of the newest commit

A commit is told exactly where the answer that was heard last describes one; an answer of any other
shape tells nothing.  The name and the time are handed on as they stand there, whatever kind of
value they are: nothing asks whether they are texts.

Whether a commit is told depends on the answer that was heard last: the second one if the first said
nothing and a time was given, and the first one otherwise.  Both the shape of the answer and the
failures of the client are covered by one equivalence, for every web, with redirects followed or
not.

That the name and the time may be any values is not an oversight of the statement but what is done
with them: they are found under their names and handed on.

* `Freshness.lastHeard?`: the answer that decides, with redirects followed or not;
* `Commit.exists_described`: no value is ruled out for the name or for the time;
* `unfiltered_eq_some_iff`: the question without a time;
* `latestCommit_told`: what is told, and when;
* `latestCommit_not_text`: a name that is a list, and a time that is an object.
-/

namespace LibraryCalls

variable {settings : Settings} {ref : String} {since : Option String} {follow : Bool} {web : Web}
  {j : Json} {c : Commit}

namespace Commit

def IsText (c : Commit) : Prop :=
  (∃ sha, c.sha = .str sha) ∧ ∃ timestamp, c.timestamp = .str timestamp

/-- Every name and every time is described by some answer. -/
theorem exists_described (c : Commit) : ∃ j, Described j c :=
  ⟨.arr [.obj [("sha", c.sha),
      ("commit", .obj [("committer", .obj [("date", c.timestamp)])])]],
    _, [], _, _, rfl, rfl, rfl, rfl, rfl⟩

end Commit

namespace Freshness

def answered? (settings : Settings) (follow : Bool) (ref : String) (since : Option String)
    (web : Web) : Option (Json × Web) :=
  (ask settings follow ref since web).outcome.toOption

/-- The answer that is heard last.  The question is asked again, without the time and of what is
left of the web, if the first answer says nothing. -/
def lastHeard? (settings : Settings) (follow : Bool) (ref : String) (since : Option String)
    (web : Web) : Option Json :=
  (answered? settings follow ref since web).bind fun (j, left) =>
    if since.isSome ∧ j.isVoid then (answered? settings follow ref none left).map Prod.fst
    else some j

theorem not_described_of_isVoid (h : j.isVoid = true) : ¬ Commit.Described j c :=
  fun hd => Bool.false_ne_true (hd.isVoid.symm.trans h)

/-- **What a question tells**: the commit that the answer describes, or, if the answer says nothing,
what is told next. -/
theorem question_eq_some_iff (next : Web → Run)
    (hnext : ∀ rest e, (next rest).outcome = .error e → e.class = .recursion) :
    (question settings follow ref since next web).outcome = .ok (some c) ↔
      ∃ j left, answered? settings follow ref since web = some (j, left) ∧
        if j.isVoid then (next left).outcome = .ok (some c) else Commit.Described j c := by
  rw [answered?]
  cases hask : (ask settings follow ref since web).outcome with
  | error e =>
    by_cases hclass : e.class = .recursion
    · rw [question_of_exhausted hask hclass]
      simp [Except.toOption]
    · rw [question_of_failure hask hclass]
      simp [Except.toOption]
  | ok p =>
    obtain ⟨j, left⟩ := p
    simp only [Except.toOption, Option.some.injEq, Prod.mk.injEq, and_assoc, exists_and_left,
      exists_eq_left']
    cases hvoid : j.isVoid with
    | true =>
      rw [question_of_void hask hvoid (hnext left)]
      simp
    | false =>
      cases hc : Commit.ofJson j with
      | ok commit =>
        rw [question_of_commit hask hvoid hc, ← Commit.ofJson_eq_ok_iff, hc]
        simp
      | error fault =>
        rw [question_of_shape hask hvoid hc, ← Commit.ofJson_eq_ok_iff, hc]
        simp

/-- **The question without a time.** -/
theorem unfiltered_eq_some_iff :
    (unfiltered settings follow ref web).outcome = .ok (some c) ↔
      ∃ j, (answered? settings follow ref none web).map Prod.fst = some j ∧
        Commit.Described j c := by
  rw [unfiltered, question_eq_some_iff (reportEmpty settings) fun _ _ he => (by cases he)]
  cases answered? settings follow ref none web with
  | none => simp
  | some p =>
    obtain ⟨j, left⟩ := p
    cases hvoid : j.isVoid with
    | true => simp [hvoid, reportEmpty, not_described_of_isVoid hvoid]
    | false => simp [hvoid]

/-- **The whole question**, with a time or without. -/
theorem latestCommit_eq_some_iff :
    (latestCommit settings follow ref since web).outcome = .ok (some c) ↔
      ∃ j, lastHeard? settings follow ref since web = some j ∧ Commit.Described j c := by
  cases since with
  | none =>
    have hlast : lastHeard? settings follow ref none web
        = (answered? settings follow ref none web).map Prod.fst := by
      rw [lastHeard?]
      cases answered? settings follow ref none web <;> rfl
    rw [hlast]
    exact unfiltered_eq_some_iff
  | some time =>
    have hquestion : latestCommit settings follow ref (some time) web
        = question settings follow ref (some time) (unfiltered settings follow ref) web := rfl
    rw [hquestion, lastHeard?, question_eq_some_iff _ fun _ _ he => class_of_unfiltered he]
    cases answered? settings follow ref (some time) web with
    | none => simp
    | some p =>
      obtain ⟨j, left⟩ := p
      cases hvoid : j.isVoid with
      | true =>
        -- the first answer counts for nothing, and the second one decides
        simp [hvoid, unfiltered_eq_some_iff]
      | false => simp [hvoid]

/-- Where no commit is told, the answer is that nothing is known, or a failure has left the
question. -/
theorem not_told_iff :
    ((latestCommit settings follow ref since web).outcome = .ok none ∨
        ∃ e, (latestCommit settings follow ref since web).outcome = .error e ∧
          e.class = .recursion) ↔
      ∀ c, (latestCommit settings follow ref since web).outcome ≠ .ok (some c) := by
  cases houtcome : (latestCommit settings follow ref since web).outcome with
  | error e => simp [class_of_latestCommit houtcome]
  | ok result => cases result <;> simp

end Freshness

open Freshness in
/-- **What is told of the newest commit**, whatever is asked and whatever is answered.  A commit is
told exactly where the last answer is a list whose first item is an object with a name and, two
objects further down, a date, and these two values are what is told.  They are texts exactly where
the answer has texts there; no value is ruled out for either of them.  An answer of any other shape,
and no answer, tell nothing, unless the machine had no room for the answer. -/
theorem latestCommit_told (settings : Settings) (follow : Bool) (ref : String)
    (since : Option String) (web : Web) :
    let told := (latestCommit settings follow ref since web).outcome
    let heard := lastHeard? settings follow ref since web
    (∀ c, told = .ok (some c) ↔ ∃ j, heard = some j ∧ Commit.Described j c) ∧
      ((told = .ok none ∨ ∃ e, told = .error e ∧ e.class = .recursion) ↔
        ∀ j, heard = some j → ∀ c, ¬ Commit.Described j c) ∧
      ((∃ c, told = .ok (some c) ∧ c.IsText) ↔
        ∃ j sha timestamp, heard = some j ∧ Commit.Described j ⟨.str sha, .str timestamp⟩) ∧
      ∀ c, ∃ j, Commit.Described j c := by
  intro told heard
  have hsome : ∀ c, told = .ok (some c) ↔ ∃ j, heard = some j ∧ Commit.Described j c :=
    fun c => latestCommit_eq_some_iff
  refine ⟨hsome, ?_, ?_, Commit.exists_described⟩
  · rw [not_told_iff]
    simp only [ne_eq, latestCommit_eq_some_iff, not_exists, not_and]
    exact ⟨fun h j hj c => h c j hj, fun h c j hj => h j hj c⟩
  · constructor
    · rintro ⟨⟨_, _⟩, htold, ⟨sha, rfl⟩, ⟨timestamp, rfl⟩⟩
      obtain ⟨j, hj, hd⟩ := (hsome _).1 htold
      exact ⟨j, sha, timestamp, hj, hd⟩
    · rintro ⟨j, sha, timestamp, hj, hd⟩
      exact ⟨_, (hsome _).2 ⟨j, hj, hd⟩, ⟨sha, rfl⟩, ⟨timestamp, rfl⟩⟩

/-- **A commit that is told need not be a text**: the name is a list here, and the time is an
object. -/
theorem latestCommit_not_text :
    let answer : Web.Answer := .reply
      { body := Text.encode
          "[\x7b\"sha\":[],\"commit\":\x7b\"committer\":\x7b\"date\":\x7b\x7d\x7d\x7d\x7d]" }
    let web : Web := { answers := [answer] }
    let c : Commit := ⟨.arr [], .obj []⟩
    (latestCommit .standard false "m" none web).outcome = .ok (some c) ∧ ¬ c.IsText := by
  intro answer web c
  let j : Json := .arr [.obj [("sha", .arr []),
    ("commit", .obj [("committer", .obj [("date", .obj [])])])]]
  have hjson : answer.json? web.room = some j := by cbv
  have hscheme : (Web.requested? (Freshness.url .standard)
      (Freshness.params .standard "m" none)).any (fun u => u.scheme ≠ []) = true := by
    decide +kernel
  have hheard : Freshness.heard? .standard "m" none web = some j := by
    obtain ⟨u, hu, hne⟩ := (Option.any_eq_true _ _).1 hscheme
    rw [Freshness.heard?, Web.heard?, hu]
    exact (if_neg (of_decide_eq_true hne)).trans hjson
  have hlast : Freshness.lastHeard? .standard false "m" none web = some j := by
    rw [Freshness.lastHeard?, Freshness.answered?,
      Freshness.outcome_ask_eq_ok_iff.2 ⟨hheard, rfl⟩]
    rfl
  refine ⟨Freshness.latestCommit_eq_some_iff.2 ⟨j, hlast, ?_⟩, ?_⟩
  · exact ⟨_, [], _, _, rfl, rfl, rfl, rfl, rfl⟩
  · rintro ⟨⟨sha, hsha⟩, -⟩
    cases hsha

end LibraryCalls
