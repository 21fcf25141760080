import SearchGateway.Launch.Start

/-!
# The program

Starts the gateway from its command line.  Once it serves, each line of the standard input
is a request, a method and a target between blanks, and each answer is printed as its
status and its body.  There is no network here: a service behind the gateway cannot be
reached.
-/

namespace SearchGateway.Main

/-- What is found at a path. -/
def readPath (path : String) : IO Config.Found := do
  try return .text (← IO.FS.readFile path)
  catch
    | .noFileOrDirectory .. => return .nothing
    | .inappropriateType none .. => return .folder
    | .inappropriateType (some _) .. => return .nothing
    | _ => return .unreadable

/-- Does what a start asks for. -/
def perform {α : Type} : Launch.Starting α → IO α
  | .done a => pure a
  | .ask (.read path) next => do perform (next (← readPath path))
  | .ask (.listen _) next => perform (next none)

/-- The variables of this process. -/
def environment : IO Launch.Environment := do
  match ← readPath "/proc/self/environ" with
  | .text block =>
    return Ordered.ofList ((Text.pieces (· == '\x00') block.toList).filterMap fun cs =>
      match cs.dropWhile (· ≠ '=') with
      | '=' :: value => some (String.ofList (cs.takeWhile (· ≠ '=')), String.ofList value)
      | _ => none)
  | _ => return Ordered.empty

/-- No service can be reached. -/
def unreachable (r : Http.Request) (s : Unit) : Http.Outcome × Unit :=
  (.error (.unreachable r.url), s)

/-- The answer to a line of input. -/
def answerLine (s : Gateway.State) (line : String) : Gateway.Response :=
  let (method, target) := match (Text.pieces Text.isBlank line.toList).filter (· ≠ []) with
    | [target] => ("GET", target)
    | method :: target :: _ => (String.ofList method, target)
    | [] => ("GET", [])
  ((s.respond ⟨method, String.ofList target, []⟩).run unreachable ()).1.response

/-- Looks at the configuration file again; if it has changed, that is noticed. -/
def refresh (r : Gateway.Reloading) : IO Gateway.Reloading := do
  let found ← readPath r.path
  if found = r.file then return r
  match r.run (Gateway.Reloading.notice found [.write (Gateway.fileName r.path)]) with
  | some r =>
    if let some outcome := r.outcomes.getLast? then IO.eprintln (Gateway.reloadMessage outcome)
    return r
  | none => return r

/-- Answers lines under the configuration in force. -/
partial def serve (input : IO.FS.Stream) (r : Gateway.Reloading) : IO Unit := do
  let line ← input.getLine
  if line.isEmpty then return
  let r ← refresh r
  let answer := answerLine r.state line
  IO.println s!"{answer.status} {answer.body}"
  serve input r

/-- Starts, says what there is to say, and serves. -/
def run (args : List String) : IO UInt32 := do
  let (voice, ending) ← perform (Launch.start args (← environment))
  for line in voice.complaints do IO.eprintln line
  for entry in voice.log do IO.println entry.text
  match ending with
  | .serving r => serve (← IO.getStdin) r
  | _ => pure ()
  return ending.exitCode.toUInt32

end SearchGateway.Main

def main (args : List String) : IO UInt32 := SearchGateway.Main.run args
