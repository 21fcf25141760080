import SearchGateway.Access.Screening

/-!
# Branches at work side by side

The branches of a screening share one session and nothing else.  Each of them gets the
filter first, then makes its probes one after the other, and what the branches do may come
in any order.  One fetch at a time is under way; a branch that needs the filter meanwhile
waits for it, and if the fetch fails the next one may try.  With the first failure of a
branch the whole screening has failed, and nothing happens any more.

    Crew.start       the branches of a screening, all still without the filter
    Crew.step        one move of one branch, if it can be made
    Crew.result?     what comes out, once that is settled
-/

namespace SearchGateway.Access

open Backend (Suggestion)

/-- What one branch is doing. -/
inductive Task
  /-- It has no filter yet. -/
  | waiting (candidates : List Suggestion)
  /-- It is fetching the filter. -/
  | fetching (candidates : List Suggestion)
  /-- It has the filter and makes its probes; one of them may be under way. -/
  | probing (rest : Inquiring (Except Backend.Fault (List Suggestion))) (underWay : Bool)
  | failed (cause : ScreeningError)

namespace Task

def isFetching : Task → Bool
  | fetching _ => true
  | _ => false

def isProbing : Task → Bool
  | probing _ underWay => underWay
  | _ => false

def isFailed : Task → Bool
  | failed _ => true
  | _ => false

/-- What a branch has kept, once it is through. -/
def kept? : Task → Option (List Suggestion)
  | probing (.done (.ok kept)) _ => some kept
  | _ => none

/-- The probes that are left when an answer has come; a failed probe ends the branch. -/
def settle : Inquiring (Except Backend.Fault (List Suggestion)) → Task
  | .done (.error e) => failed (.probe e)
  | rest => probing rest false

end Task

/-- The branches of one screening. -/
structure Crew where
  session : Session
  /-- How many suggestions each branch keeps at most. -/
  wanted : Nat
  tasks : List Task

/-- Something that a branch does, or that happens to it. -/
inductive Move
  /-- It begins to fetch the filter. -/
  | fetch (branch : Nat)
  | fetched (branch : Nat) (answer : Except Unavailable Filter)
  /-- It takes the filter that the session has. -/
  | take (branch : Nat)
  /-- It makes its next probe. -/
  | probe (branch : Nat)
  | probed (branch : Nat) (answer : Except Backend.Fault Nat)

namespace Crew

/-! ## Algorithm -/

/-- The branches of a screening, all still without the filter.  There are none where nothing is
wanted or there is nothing to screen. -/
def start (parallelism : Nat) (s : Session) (candidates : List Suggestion) (wanted : Nat) : Crew :=
  ⟨s, wanted, if wanted = 0 ∨ candidates = [] then []
    else (slices (max parallelism 1) candidates).map .waiting⟩

/-- Whether a branch has failed. -/
def isOver (c : Crew) : Bool := c.tasks.any Task.isFailed

/-- What a branch does next. -/
def become (c : Crew) (branch : Nat) (t : Task) : Crew := { c with tasks := c.tasks.set branch t }

/-- A branch's probes under a filter. -/
def begin (c : Crew) (f : Filter) (candidates : List Suggestion) : Task :=
  Task.settle (Screening.leaf f c.wanted candidates)

/-- One move, as long as no branch has failed. -/
def step (c : Crew) (m : Move) : Option Crew :=
  if c.isOver then none
  else
    match m with
    | .fetch i =>
      match c.tasks[i]?, c.session.filter with
      | some (.waiting cs), none =>
        if c.tasks.any Task.isFetching then none else some (c.become i (.fetching cs))
      | _, _ => none
    | .fetched i answer =>
      match c.tasks[i]?, answer with
      | some (.fetching cs), .ok f => some ({ c with session := ⟨some f⟩ }.become i (c.begin f cs))
      | some (.fetching _), .error e => some (c.become i (.failed (.entitlement e)))
      | _, _ => none
    | .take i =>
      match c.tasks[i]?, c.session.filter with
      | some (.waiting cs), some f => some (c.become i (c.begin f cs))
      | _, _ => none
    | .probe i =>
      match c.tasks[i]? with
      | some (.probing (.ask (.probe f t) next) false) =>
        some (c.become i (.probing (.ask (.probe f t) next) true))
      | _ => none
    | .probed i answer =>
      match c.tasks[i]? with
      | some (.probing (.ask (.probe _ _) next) true) =>
        some (c.become i (Task.settle (next answer)))
      | _ => none

/-- Moves in any order, if each of them can be made. -/
def run (c : Crew) (moves : List Move) : Option Crew := moves.foldlM step c

/-- What comes out: the first failure, or what the branches have kept when all of them are
through, up to the wanted number. -/
def result? (c : Crew) : Option (Except ScreeningError (List Suggestion)) :=
  match c.tasks.findSome? fun | .failed e => some e | _ => none with
  | some e => some (.error e)
  | none => (c.tasks.mapM Task.kept?).map fun kept => .ok (kept.flatten.take c.wanted)

end Crew

end SearchGateway.Access
