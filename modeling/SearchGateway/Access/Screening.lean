import SearchGateway.Access.Caller
import SearchGateway.Access.Filter
import SearchGateway.Backend.Fault
import SearchGateway.Backend.Response
import SearchGateway.Dialogue

/-!
# Screening suggestions

The backend suggests titles without regard to who asks.  Each of them is probed under the
caller's access filter, and only those that the caller can find are kept, up to a wanted
number.

    slices            candidates split over a number of branches
    Screening.leaf    the probes of one branch
    screen            the candidates that are kept, in order

A branch stops once it alone has kept what is wanted.  The filter is fetched when a branch
first needs it and kept for the session; a failed fetch keeps nothing.
-/

namespace SearchGateway.Access

open Backend (Suggestion)

/-! ## Questions -/

/-- What screening needs to know from outside. -/
inductive Inquiry
  /-- The caller's access filter. -/
  | filter
  /-- How many documents of that title the filter lets through. -/
  | probe (under : Filter) (title : String)
  deriving DecidableEq, Repr

abbrev Inquiry.Answer : Inquiry → Type
  | filter => Except Unavailable Filter
  | probe .. => Except Backend.Fault Nat

abbrev Inquiring := Dialogue Inquiry Inquiry.Answer

inductive ScreeningError
  | entitlement (cause : Unavailable)
  | probe (cause : Backend.Fault)
  deriving DecidableEq, Repr

def ScreeningError.message : ScreeningError → String
  | entitlement e => e.message
  | probe e => s!"probe failed: {e.message}"

/-! ## Sessions -/

/-- The access filter of one caller, once it has been fetched. -/
structure Session where
  filter : Option Filter
  deriving DecidableEq, Repr

def Session.fresh : Session := ⟨none⟩

/-- The session's filter, fetched if need be. -/
def Session.get (s : Session) : Inquiring (Except Unavailable Filter × Session) :=
  match s.filter with
  | some f => .done (.ok f, s)
  | none => .ask .filter fun
    | .ok f => .done (.ok f, ⟨some f⟩)
    | .error e => .done (.error e, s)

/-! ## Algorithm -/

/-- Candidates halved, and the branches with them, until there is one branch or less than
two candidates; of an odd number the second half gets the larger share. -/
def slices (branches : Nat) (candidates : List Suggestion) : List (List Suggestion) :=
  if branches ≤ 1 ∨ candidates.length < 2 then [candidates]
  else
    let half := candidates.length / 2
    slices (branches / 2) (candidates.take half)
      ++ slices (branches - branches / 2) (candidates.drop half)
termination_by branches

namespace Screening

/-- Probes candidates one by one until so many are kept. -/
def leaf (f : Filter) : Nat → List Suggestion → Inquiring (Except Backend.Fault (List Suggestion))
  | 0, _ => .done (.ok [])
  | _ + 1, [] => .done (.ok [])
  | wanted + 1, c :: r => .ask (.probe f c.term) fun
    | .error e => .done (.error e)
    | .ok 0 => leaf f (wanted + 1) r
    | .ok (_ + 1) => (leaf f wanted r).bind fun rest => .done (rest.map (c :: ·))

/-- One branch: the filter first, then the probes. -/
def branch (s : Session) (wanted : Nat) (candidates : List Suggestion) :
    Inquiring (Except ScreeningError (List Suggestion) × Session) :=
  s.get.bind fun
    | (.error e, s) => .done (.error (.entitlement e), s)
    | (.ok f, s) => (leaf f wanted candidates).bind fun r => .done (r.mapError .probe, s)

/-- Branches from left to right as far as the first that fails. -/
def branches (s : Session) (wanted : Nat) : List (List Suggestion) →
    Inquiring (Except ScreeningError (List Suggestion) × Session)
  | [] => .done (.ok [], s)
  | slice :: r => (branch s wanted slice).bind fun
    | (.error e, s) => .done (.error e, s)
    | (.ok kept, s) => (branches s wanted r).bind fun (rest, s) =>
      .done (rest.map (kept ++ ·), s)

end Screening

/-- The candidates that the caller can find, in order, up to a wanted number. -/
def screen (parallelism : Nat) (s : Session) (candidates : List Suggestion) (wanted : Nat) :
    Inquiring (Except ScreeningError (List Suggestion) × Session) :=
  if wanted = 0 ∨ candidates = [] then .done (.ok [], s)
  else
    (Screening.branches s wanted (slices (max parallelism 1) candidates)).bind fun (r, s) =>
      .done (r.map (·.take wanted), s)

/-! ## Lemmas -/

theorem flatten_slices (n : Nat) (candidates : List Suggestion) :
    (slices n candidates).flatten = candidates := by
  fun_induction slices n candidates with
  | case1 n cs h => simp
  | case2 n cs h half ih₁ ih₂ => simp [List.flatten_append, ih₁, ih₂]

end SearchGateway.Access
