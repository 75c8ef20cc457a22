import LibraryCalls.Files.Path

/-!
# Where descriptors come from

Descriptors are read from a directory on the disk, or from their repository at a certain state of
it.  The state is named by a reference, such as a branch, a tag or a commit; the time of its newest
commit may be kept beside it, but nothing that is fetched depends on it.

An origin says where to look and holds nothing that was found there.  It is what a switcher
publishes in its cell, and what `fetchText` takes to find the text of one descriptor; the
descriptors of a whole directory are loaded from a path alone.

* `Origin.directory`: a directory of descriptor files;
* `Origin.git`: a state of the repository, perhaps with a time.
-/

namespace LibraryCalls

/-- A directory of descriptors, or a reference to a state of their repository, perhaps with the time
of its newest commit. -/
inductive Origin where
  | directory (path : Path)
  | git (ref : String) (timestamp : Option String)
  deriving DecidableEq, Repr

end LibraryCalls
