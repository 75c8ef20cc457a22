import LibraryCalls.Assoc
import LibraryCalls.Log.Event
import LibraryCalls.Source.Origin
import LibraryCalls.Text.Quoted

/-!
# Switching between origins

A switcher knows one origin for each of its modes.  An origin is built when its mode is first
chosen, by a builder that may fail and may remember what it was asked, and is kept from then on.
Choosing a mode publishes its origin in a cell that others may read and write as well.

The cell is part of what a switcher works on, together with the state of its builder, so that writes
by others can be put between two choices of a mode.  A choice first looks into the cache; only if
the mode is not there is the builder asked, and only if it answers are the cache, the mode and the
cell changed, all at once.

The standard switcher has a mode for directories and one for references.  For the kind of origin
that was in the cell when it was made it takes that origin, and for the other kind a default.  Its
builder cannot fail.  Runs of several switchers around one cell are in
`LibraryCalls.Proofs.Switcher.Board`.

* `Switcher.setMode`: choosing a mode;
* `DefaultMode`: the two modes of the standard switcher, and what they stand for;
* `Switcher.originOf`: the origin of a mode, from the cache or from the builder;
* `DefaultMode.origin`, `DefaultMode.start`: the origins of the standard switcher, and its
  beginning.
-/

namespace LibraryCalls

/-- A switcher: the mode chosen last and the origins built so far. -/
structure Switcher (μ : Type) where
  mode : μ
  cache : Assoc μ Origin := []

/-- What a builder does when asked for the origin of a mode: it may fail, and it may be another
builder afterwards. -/
abbrev Builder (μ β ε : Type) := μ → β → Except ε Origin × β

/-- A switcher, the state of its builder, and the shared cell. -/
structure Switching (μ β : Type) where
  switcher : Switcher μ
  builder : β
  fallback : Origin

namespace Switcher

variable {μ β ε : Type} [DecidableEq μ]

/-- The origin of a mode, from the cache or else from the builder, with the cache and the builder
after it. -/
def originOf (build : Builder μ β ε) (mode : μ) (cache : Assoc μ Origin) (builder : β) :
    Except ε (Origin × Assoc μ Origin) × β :=
  match cache.get? mode with
  | some origin => (.ok (origin, cache), builder)
  | none =>
    match build mode builder with
    | (.error e, builder) => (.error e, builder)
    | (.ok origin, builder) => (.ok (origin, cache.set mode origin), builder)

/-- Choose a mode.  If its origin cannot be built, nothing but the builder changes and nothing is
reported. -/
def setMode (build : Builder μ β ε) (modeText : μ → String) (mode : μ) (s : Switching μ β) :
    Switching μ β × Except ε Event :=
  match originOf build mode s.switcher.cache s.builder with
  | (.error e, builder) => ({ s with builder }, .error e)
  | (.ok (origin, cache), builder) =>
    (⟨⟨mode, cache⟩, builder, origin⟩, .ok (.fallbackSwitched (modeText mode)))

end Switcher

/-- The modes of the standard switcher. -/
inductive DefaultMode where
  | directory
  | gitReference
  deriving DecidableEq, Repr

namespace DefaultMode

def name : DefaultMode → String
  | .directory => "directory"
  | .gitReference => "git_reference"

def ofName? (name : String) : Option DefaultMode :=
  if name = "directory" then some .directory
  else if name = "git_reference" then some .gitReference
  else none

def unknownMessage (name : String) : String :=
  String.ofList (Text.quoted name.toList) ++ " is not a valid DefaultInfoSwitch"

def text : DefaultMode → String
  | .directory => "DefaultInfoSwitch.DIRECTORY"
  | .gitReference => "DefaultInfoSwitch.GIT_REFERENCE"

/-- The origin of a mode: the one in the cell when the switcher is made, if it is of the right kind,
and otherwise the given default. -/
def origin (initial : Origin) (directory : Path) (ref : String) : DefaultMode → Origin
  | .directory =>
    match initial with
    | .directory _ => initial
    | .git .. => .directory directory
  | .gitReference =>
    match initial with
    | .git .. => initial
    | .directory _ => .git ref none

/-- A builder that never fails and remembers nothing. -/
def builder (initial : Origin) (directory : Path) (ref : String) :
    Builder DefaultMode Unit Empty :=
  fun mode _ => (.ok (origin initial directory ref mode), ())

/-- The standard switcher beside a cell that holds `initial`. -/
def start (initial : Origin) : Switching DefaultMode Unit :=
  ⟨⟨.directory, []⟩, (), initial⟩

end DefaultMode

end LibraryCalls
