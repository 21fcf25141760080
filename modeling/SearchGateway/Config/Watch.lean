/-!
# Watching the configuration file

Editors often replace a file rather than write into it, so the file's directory is watched
and what happens there is filtered by name.  Changes come in batches, and a batch in which
the file's name occurs is reported once.

    Watcher.start      refuses a file that is not there
    Watcher.receive    what is reported of a batch
-/

namespace SearchGateway.Config

/-- Something that happens in the directory. -/
inductive Change
  | write (name : String)
  | rename (old new : String)
  | remove (name : String)
  deriving DecidableEq, Repr

/-- The names that a change concerns. -/
def Change.names : Change → List String
  | write n => [n]
  | rename a b => [a, b]
  | remove n => [n]

/-- What the notifier delivers at a time: changes, or that it failed. -/
inductive Batch
  | changes (cs : List Change)
  | failure
  deriving DecidableEq, Repr

/-- Whether a batch concerns a file. -/
def Batch.touches (file : String) : Batch → Bool
  | changes cs => cs.any fun c => c.names.contains file
  | failure => false

inductive WatchError
  | missing (path : String)
  deriving DecidableEq, Repr

def WatchError.message : WatchError → String
  | missing p => s!"Watcher error: config file {p} does not exist"

/-- What becomes of a batch. -/
inductive Report
  | quiet
  | changed
  /-- Nobody listens any more. -/
  | unheard
  deriving DecidableEq, Repr

structure Watcher where
  file : String
  /-- Whether somebody takes the reports. -/
  heard : Bool
  running : Bool
  deriving DecidableEq, Repr

namespace Watcher

/-- A watcher to whom somebody listens. -/
def watching (file : String) : Watcher := ⟨file, true, true⟩

/-- Begins to watch a file, which must be there. -/
def start (path file : String) (isThere : Bool) : Except WatchError Watcher :=
  if isThere then .ok (watching file) else .error (.missing path)

/-- Nobody takes the reports from now on. -/
def unhear (w : Watcher) : Watcher := { w with heard := false }

/-- What is reported of a batch.  A report that nobody takes is the last. -/
def receive (w : Watcher) (b : Batch) : Report × Watcher :=
  if !w.running || !b.touches w.file then (.quiet, w)
  else if w.heard then (.changed, w)
  else (.unheard, { w with running := false })

end Watcher

end SearchGateway.Config
