/-!
# Library definitions

What a library adds to a session: where to look for it, what to put on the class path, what to
import, and the code to run at three moments.

Each of the six fields is a list of texts, and every text may hold placeholders for the values of a
call.  What the texts are is not looked at: a repository, a dependency or an import is any text, and
nothing says that it has the form that one would expect.

Only repositories, dependencies and imports become code that is injected when a call is resolved.
The code to run on loading is queued for a session, and the code for each cell and for the end is
handed on to whoever runs the session.

* `Definition`: the fields, all of them empty unless they are given.
-/

namespace LibraryCalls

/-- What a library adds to a session, and the code it runs there. -/
structure Definition (τ : Type := String) where
  repositories : List τ := []
  dependencies : List τ := []
  imports : List τ := []
  /-- Code to run when the library is loaded. -/
  init : List τ := []
  /-- Code to run before each cell. -/
  initCell : List τ := []
  /-- Code to run when the session ends. -/
  shutdown : List τ := []
  deriving DecidableEq, Repr, Inhabited

end LibraryCalls
