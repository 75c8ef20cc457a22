import LibraryCalls.Host

/-!
# Collecting definitions

The definitions that producers yield, in order and without removing repeated ones.  Without a host a
resolving producer yields nothing.

A run is a row of requests to the host.  For a resolving producer the preparing fragments are run
first, in one request, and then its own fragments, one request for each; a fragment that yields a
producer has this producer run at once, before the next fragment.  When the preparing fragments or
the own ones have run, an event says so, with the number of the definitions that were found.

Producers nest by what the host answers and not by their own structure, so that the recursion is on
the depth that is left.  `runCodes` takes the way in which a nested producer is run as an argument,
so that what it does can be stated once for every depth.

* `Producer.runCodes`: the definitions that a list of fragments yields, given how to run a producer;
* `Producer.produce`: the definitions of one producer;
* `collect`: the definitions of a list of producers.
-/

namespace LibraryCalls

namespace Producer

open Host

/-- Run fragments in order and collect what they yield: a definition counts for itself, a producer
for what it produces in turn, and anything else for nothing. -/
def runCodes (host : Host) (nested : Producer → Run (List Definition)) :
    List String → Run (List Definition)
  | [] => pure []
  | code :: rest => do
    let result ← host.execute code
    let found ← match result with
      | .definition d => pure [d]
      | .producer p => nested p
      | .other _ => pure []
    let others ← runCodes host nested rest
    pure (found ++ others)

/-- The definitions of a producer on a host that lets producers start each other `depth` levels
deep. -/
def produceWithin (host : Host) : Nat → Producer → Run (List Definition)
  | _, .ready d => pure [d]
  | _, .custom ds => pure ds
  | 0, .resolving .. => Traced.fail .tooDeep
  | depth + 1, .resolving init codes => do
    host.prepare init
    report (.initCodeExecuted init.length)
    let definitions ← runCodes host (produceWithin host depth) codes
    report (.definitionCodeExecuted codes.length definitions.length)
    pure definitions

/-- The definitions of a producer; without a host a resolving producer has none. -/
def produce : Option Host → Producer → Run (List Definition)
  | some host, p => produceWithin host host.depth p
  | none, .ready d => pure [d]
  | none, .custom ds => pure ds
  | none, .resolving .. => pure []

end Producer

/-- The definitions of all producers, one after another. -/
def collect (host : Option Host) : List Producer → Host.Run (List Definition)
  | [] => pure []
  | p :: rest => do
    let found ← p.produce host
    let others ← collect host rest
    pure (found ++ others)

end LibraryCalls
