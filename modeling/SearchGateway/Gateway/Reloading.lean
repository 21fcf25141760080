import SearchGateway.Config.Watch
import SearchGateway.Gateway.State

/-!
# Reloading on change

The configuration file, the watcher and the reloader each go their own way.  Whoever
changes the file does not wait; the notifier delivers batches of changes; the watcher looks
at one batch after the other and reports those that concern the file; the reloader takes
one report after the other, reads the file as it is by then, and some time later puts in force
what it has read.  Only so many reports can wait, and the watcher waits with the next one.

    Reloading.step      one step of one of them, if it can be made
    Reloading.run       steps in any order
    notice              all that follows a change when nothing else happens
-/

namespace SearchGateway.Gateway

/-- How many reports can wait for the reloader. -/
def reportRoom : Nat := 8

/-- Where the reloader is. -/
inductive Reloader
  /-- It waits for a report. -/
  | idle
  /-- It has taken a report and not read the file yet. -/
  | called
  /-- It has read this and not put it in force yet. -/
  | holding (found : Config.Found)
  deriving DecidableEq, Repr

structure Reloading where
  path : String
  env : Config.Variables
  /-- What stands at the path. -/
  file : Config.Found
  watcher : Config.Watcher
  /-- Batches that the watcher has not looked at. -/
  batches : List Config.Batch
  /-- Reports that the reloader has not taken. -/
  reports : Nat
  reloader : Reloader
  state : State
  /-- How the reloads so far went. -/
  outcomes : List (Except RuntimeError Unit)

/-- A step of somebody. -/
inductive ReloadStep
  /-- Something else stands at the path. -/
  | change (file : Config.Found)
  /-- The notifier delivers a batch. -/
  | deliver (batch : Config.Batch)
  /-- The watcher looks at a batch. -/
  | look
  /-- The reloader takes a report. -/
  | take
  /-- The reloader reads the file. -/
  | read
  /-- The reloader puts in force what it has read, if it can. -/
  | settle
  deriving DecidableEq, Repr

/-- The last name of a path. -/
def fileName (path : String) : String :=
  String.ofList (path.toList.reverse.takeWhile (· ≠ '/')).reverse

/-- What the log says about a reload. -/
def reloadMessage (r : Except RuntimeError Unit) : String :=
  match r with
  | .ok _ => "Configuration reloaded"
  | .error _ => "Configuration reload failed, keeping previous configuration"

namespace Reloading

/-! ## Algorithm -/

/-- Begins to watch a file that has just been loaded. -/
def begin (path : String) (env : Config.Variables) (file : Config.Found) (s : State) :
    Reloading :=
  ⟨path, env, file, .watching (fileName path), [], 0, .idle, s, []⟩

/-- The watcher looks at the first batch, if there is one and room for a report of it. -/
def look (r : Reloading) : Option Reloading :=
  match r.batches with
  | [] => none
  | b :: batches =>
    match r.watcher.receive b with
    | (.changed, watcher) =>
      if r.reports < reportRoom then
        some { r with watcher, batches, reports := r.reports + 1 }
      else none
    | (_, watcher) => some { r with watcher, batches }

/-- The reloader takes a report, if it has none and there is one. -/
def take (r : Reloading) : Option Reloading :=
  match r.reloader, r.reports with
  | .idle, reports + 1 => some { r with reports, reloader := .called }
  | _, _ => none

/-- The reloader reads the file for the report that it has taken. -/
def read (r : Reloading) : Option Reloading :=
  match r.reloader with
  | .called => some { r with reloader := .holding r.file }
  | _ => none

/-- The reloader makes a runtime of what it has read and is done with the report. -/
def settle (r : Reloading) : Option Reloading :=
  match r.reloader with
  | .holding found =>
    let (state, outcome) := r.state.reload (Config.Settings.loadFound r.path r.env found)
    some { r with reloader := .idle, state, outcomes := r.outcomes ++ [outcome] }
  | _ => none

/-- One step, if it can be made. -/
def step (r : Reloading) : ReloadStep → Option Reloading
  | .change file => some { r with file }
  | .deliver batch => some { r with batches := r.batches ++ [batch] }
  | .look => r.look
  | .take => r.take
  | .read => r.read
  | .settle => r.settle

/-- Steps in any order, if each of them can be made. -/
def run (r : Reloading) (steps : List ReloadStep) : Option Reloading := steps.foldlM step r

/-- All that follows a change of the file when nothing else happens. -/
def notice (file : Config.Found) (changes : List Config.Change) : List ReloadStep :=
  [.change file, .deliver (.changes changes), .look, .take, .read, .settle]

end Reloading

end SearchGateway.Gateway
