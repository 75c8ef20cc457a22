import LibraryCalls.Proofs.Placeholder.Template
import LibraryCalls.Session

/-!
# Code that is queued for a session

Queueing resolved libraries is a row of calls that add code, one for the injected code of each
library and one for each of its definitions.  So it adds code at the end, in the order of the
libraries, and leaves everything else as it is; and two rows of libraries are queued together as one
after the other.

The setters of a session are given as data, so that a history of a session is a list of them and the
statement can quantify over histories.  One that is refused leaves the session as it was.  Queueing
is shown to be such a list of calls as well, one call for each piece of code.

What is queued is described without substitution as it is computed: a template with its values put
in, literal parts unchanged, and values not looked at again.  Limits and class path are as they
were, and two lists of libraries can be queued at once or one after the other.

* `Session.Setter`, `Session.call`, `Session.after`: calls of setters, of which a session can refuse
  one, and what a row of them makes of it;
* `queue_eq_after`: queueing is a row of calls that add code;
* `after_codes`, `queue_eq`: what such a row adds;
* `Placeholder.Filled`, `Queued`: the code of libraries, said without the loops that collect it;
* `queue_of_after`: what queueing does after any calls of setters.
-/

namespace LibraryCalls

namespace Session

inductive Setter where
  | receiver (value : Json)
  | classPath (entries : List String)
  | code (codes : List String)
  | outputDir (directory : String)
  | maxResult (limit : Int)
  | shortenTypes (shorten : Bool)

/-- The session after a call of a setter, or the message of its refusal. -/
def call (s : Session) : Setter → Except String Session
  | .receiver value => .ok { s with receiver := value }
  | .classPath entries => .ok (s.addClassPath entries)
  | .code codes => .ok (s.addCode codes)
  | .outputDir directory => .ok { s with outputDir := some directory }
  | .maxResult limit =>
    match s.setMaxResult? limit with
    | some changed => .ok changed
    | none => .error (maxResultMessage limit)
  | .shortenTypes shorten => .ok { s with shortenTypes := shorten }

/-- The session after a row of calls.  A call that is refused leaves it as it is. -/
def after (s : Session) : List Setter → Session
  | [] => s
  | setter :: rest => ((s.call setter).toOption.getD s).after rest

theorem after_append (s : Session) (setters more : List Setter) :
    s.after (setters ++ more) = (s.after setters).after more := by
  induction setters generalizing s with
  | nil => rfl
  | cons setter rest ih => exact ih _

/-- **A limit that is not positive** is refused, and nothing else is. -/
theorem call_eq_error_iff (s : Session) (setter : Setter) (message : String) :
    s.call setter = .error message ↔
      ∃ limit ≤ 0, setter = .maxResult limit ∧ message = maxResultMessage limit := by
  cases setter with
  | maxResult limit =>
    rw [call, setMaxResult?]
    split
    · next changed hset =>
      refine iff_of_false nofun ?_
      rintro ⟨refused, hle, heq, -⟩
      obtain rfl := Setter.maxResult.inj heq
      rw [dif_neg (by omega)] at hset
      cases hset
    · next hnone =>
      have hle : limit ≤ 0 := by
        by_contra hpos
        rw [dif_pos (by omega)] at hnone
        cases hnone
      constructor
      · intro h
        exact ⟨limit, hle, rfl, (Except.error.inj h).symm⟩
      · rintro ⟨refused, -, heq, rfl⟩
        obtain rfl := Setter.maxResult.inj heq
        rfl
  | _ => exact iff_of_false nofun (by rintro ⟨_, _, heq, _⟩; cases heq)

/-! ### Queueing as calls that add code -/

/-- The rows of code that queue a library: its injected code, and a row for each of its
definitions. -/
def loadRows (library : Resolved) : List (List String) :=
  library.initCode ::
    library.definitions.map fun d => d.init.map (Placeholder.fill library.arguments)

theorem flatten_loadRows (library : Resolved) : (loadRows library).flatten = loadCode library := by
  rw [loadRows, List.flatten_cons, loadCode, List.flatMap_def]

/-- **A row of calls that add code** adds all of it and changes nothing else. -/
theorem after_codes (s : Session) (rows : List (List String)) :
    s.after (rows.map .code) = s.addCode rows.flatten := by
  induction rows generalizing s with
  | nil => simp [after, addCode]
  | cons row rest ih =>
    show (s.addCode row).after (rest.map .code) = s.addCode (row ++ rest.flatten)
    rw [ih]
    simp only [addCode, List.append_assoc]

/-- **Queueing is a row of calls that add code**, library after library. -/
theorem queue_eq_after (s : Session) (libraries : List Resolved) :
    s.queue libraries = s.after ((libraries.flatMap loadRows).map .code) := by
  induction libraries generalizing s with
  | nil => rfl
  | cons library rest ih =>
    show (s.addCode (loadCode library)).queue rest = _
    rw [ih, List.flatMap_cons, List.map_append, after_append, after_codes s (loadRows library),
      flatten_loadRows]

/-- What queueing adds, and that it adds nothing but code. -/
theorem queue_eq (s : Session) (libraries : List Resolved) :
    s.queue libraries = s.addCode (libraries.flatMap loadCode) := by
  have hrows : (libraries.flatMap loadRows).flatten = libraries.flatMap loadCode := by
    rw [List.flatten_eq_flatMap, List.flatMap_assoc]
    apply List.flatMap_congr
    intro library _
    rw [← flatten_loadRows, List.flatten_eq_flatMap]
  rw [queue_eq_after, after_codes, hrows]

theorem queue_append (s : Session) (first second : List Resolved) :
    s.queue (first ++ second) = (s.queue first).queue second :=
  List.foldl_append

end Session

/-! ### The code of libraries -/

/-- A text as substitution leaves it that never fails: the text's template with each value in the
place of its placeholder, the value itself not being looked at, and the other placeholders as they
are. -/
def Placeholder.Filled (mapping : Assoc String String) (text result : String) : Prop :=
  substitute .lenient mapping text = .ok result ∧
    ∃ t : Template, t.Splits text ∧ result = t.filled mapping

theorem Placeholder.filled_fill (mapping : Assoc String String) (text : String) :
    Filled mapping text (fill mapping text) := by
  have hsplits := splits_ofParts text
  exact ⟨rfl, _, hsplits, hsplits.fill_eq mapping⟩

namespace Session

/-- The code that libraries have queued: for each library what it injects and then, definition after
definition, the code for loading with the values of the library put in. -/
inductive Queued : List Resolved → List String → Prop
  | nil : Queued [] []
  | cons {library : Resolved} {libraries : List Resolved} {fragments later : List String}
      (filled : List.Forall₂ (Placeholder.Filled library.arguments)
        (library.definitions.flatMap Definition.init) fragments)
      (rest : Queued libraries later) :
      Queued (library :: libraries) (library.initCode ++ fragments ++ later)

theorem queued_loadCode (libraries : List Resolved) :
    Queued libraries (libraries.flatMap loadCode) := by
  induction libraries with
  | nil => exact .nil
  | cons library rest ih =>
    rw [List.flatMap_cons, loadCode, ← List.map_flatMap]
    refine .cons ?_ ih
    rw [List.forall₂_map_right_iff, List.forall₂_same]
    exact fun code _ => Placeholder.filled_fill library.arguments code

/-- **What queueing does to a session** that any calls of setters have led to, refused ones among
them.  Whatever the libraries are, it adds their code at the end, in order, and changes nothing
else; and libraries are queued together as one row after the other.  A call of a setter is refused
only for a limit that is not positive, and then it leaves the session as it is. -/
theorem queue_of_after (receiver : Json) (setters : List Setter) (libraries : List Resolved) :
    let s := ({ receiver } : Session).after setters
    (∃ added, Queued libraries added ∧
        s.queue libraries = { s with codeOnLoad := s.codeOnLoad ++ added }) ∧
      (∀ first second, s.queue (first ++ second) = (s.queue first).queue second) ∧
      ∀ setter message, s.call setter = .error message ↔
        ∃ limit ≤ 0, setter = .maxResult limit ∧ message = maxResultMessage limit ∧
          s.after [setter] = s := by
  intro s
  refine ⟨⟨libraries.flatMap loadCode, queued_loadCode libraries, queue_eq s libraries⟩,
    queue_append s, ?_⟩
  intro setter message
  rw [call_eq_error_iff]
  constructor
  · rintro ⟨limit, hle, rfl, rfl⟩
    have hrefused := (call_eq_error_iff s (.maxResult limit) _).2 ⟨limit, hle, rfl, rfl⟩
    refine ⟨limit, hle, rfl, rfl, ?_⟩
    rw [after, hrefused]
    rfl
  · rintro ⟨limit, hle, hsetter, hmessage, -⟩
    exact ⟨limit, hle, hsetter, hmessage⟩

/-- A fragment with two placeholders, the value of the first of which looks like the second. -/
example : (({ receiver := .null } : Session).queue
    [⟨"lib", [("v", "$\x7bw\x7d")], [{ init := ["$\x7bv\x7d$\x7bw\x7d"] }], ["b"]⟩]).codeOnLoad
      = ["b", "$\x7bw\x7d$\x7bw\x7d"] := by cbv

end Session

end LibraryCalls
