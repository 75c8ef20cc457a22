import LibraryCalls.Decimal.Binary64

/-!
# Settings

Where descriptors live and how to reach them.

There are two addresses, one at which commits can be asked for and one from which files can be
fetched, the directory of the descriptors in their repository, the reference to use when none is
given, the extension of descriptor files, and the time to wait for a reply.  All of them are taken
as they are: nothing checks that an address is a URL, that the directory is a single name or that
the extension holds no dot, and the theorems that need such things say so.

The time to wait is kept with the settings and plays no part in a run here, in which every request
is answered at once or fails.

* `Settings`: the fields; `Settings.standard`: their usual values;
* `Settings.fileName`: the name of a library's file, with the extension behind a dot.
-/

namespace LibraryCalls

/-- Where descriptors are, and how long to wait for them. -/
structure Settings where
  /-- Where the commits of the descriptors can be asked for. -/
  apiUrl : String
  /-- Where the descriptors themselves can be fetched. -/
  rawUrl : String
  /-- The directory of the descriptors within their repository. -/
  librariesDir : String
  /-- The reference used when none is given. -/
  defaultRef : String
  /-- What the name of a descriptor's file ends in, after a dot. -/
  extension : String := "json"
  /-- How long to wait for an answer, in seconds. -/
  timeout : Binary64 := Binary64.ofNumeral (.finite false 10 0)
  deriving DecidableEq, Repr

/-- The settings used when no others are given. -/
def Settings.standard : Settings where
  apiUrl := "https://api.github.com/repos/Kotlin/kotlin-jupyter"
  rawUrl := "https://raw.githubusercontent.com/Kotlin/kotlin-jupyter"
  librariesDir := "libraries"
  defaultRef := "master"

def Settings.fileName (s : Settings) (library : String) : String :=
  library ++ "." ++ s.extension

end LibraryCalls
