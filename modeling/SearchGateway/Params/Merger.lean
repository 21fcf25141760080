import SearchGateway.Params.Basic

/-!
# Merging parameters

The parameters of a request to the backend come from three sides: the handler's defaults,
the caller, and values that the handler forces.  A merger starts from the defaults, takes
writes, and applies the forced values once, when it is first read.  From then on it is
frozen and refuses writes until it is cleared.

    Merger.merged      the working values with the forced ones applied
    Merger.freeze      applies them, once
    Merger.freeze_freeze

Forced values of a cumulative parameter come after the values it has; those of any other
parameter take their place.
-/

namespace SearchGateway

structure Merger where
  defaults : Params
  forced : Params
  /-- The parameters whose values add up. -/
  cumulative : List String
  values : Params
  frozen : Bool

namespace Merger

/-- A write to a frozen merger. -/
structure Refused where
  key : String
  deriving DecidableEq, Repr

def Refused.message (r : Refused) : String :=
  s!"parameter '{r.key}' written after the merger was frozen"

/-! ## Algorithm -/

/-- A merger that holds the defaults. -/
def start (defaults forced : Params) (cumulative : List String) : Merger :=
  ⟨defaults, forced, cumulative, defaults, false⟩

/-- Applies the forced values of one parameter. -/
def force (cumulative : List String) (m : Params) (k : String) (vs : List String) : Params :=
  if k ∈ cumulative then m.addAll k vs else m.insert k vs

/-- Working values with the forced ones applied, in the order of the forced ones. -/
def merged (cumulative : List String) (forced working : Params) : Params :=
  forced.entries.foldl (fun m e => force cumulative m e.1 e.2) working

/-- Applies the forced values unless that is done already. -/
def freeze (m : Merger) : Merger :=
  if m.frozen then m
  else { m with values := merged m.cumulative m.forced m.values, frozen := true }

/-- A write to one parameter. -/
def write (m : Merger) (k : String) (f : Params → Params) : Except Refused Merger :=
  if m.frozen then .error ⟨k⟩ else .ok { m with values := f m.values }

/-- Takes the place of all values of a parameter. -/
def putAll (m : Merger) (k : String) (vs : List String) : Except Refused Merger :=
  m.write k fun ps => ps.insert k vs

def put (m : Merger) (k v : String) : Except Refused Merger := m.putAll k [v]

/-- Adds to the values of a parameter. -/
def addAll (m : Merger) (k : String) (vs : List String) : Except Refused Merger :=
  m.write k fun ps => ps.addAll k vs

def add (m : Merger) (k v : String) : Except Refused Merger := m.addAll k [v]

/-- Drops the values of a parameter; forced ones still apply. -/
def remove (m : Merger) (k : String) : Except Refused Merger := m.write k fun ps => ps.erase k

/-- Opens the merger again, empty or with the defaults. -/
def clear (m : Merger) (keepDefaults : Bool) : Merger :=
  { m with values := if keepDefaults then m.defaults else Ordered.empty, frozen := false }

/-- The merged parameters.  A reader freezes the merger first. -/
def params (m : Merger) : Params := m.freeze.values

/-- The merged values of one parameter. -/
def get? (m : Merger) (k : String) : Option (List String) := m.params.find? k

/-! ## Lemmas -/

theorem frozen_freeze (m : Merger) : m.freeze.frozen = true := by
  unfold freeze
  split <;> simp_all

theorem freeze_freeze (m : Merger) : m.freeze.freeze = m.freeze := by
  have h := frozen_freeze m
  generalize m.freeze = n at h ⊢
  simp [freeze, h]

theorem write_freeze (m : Merger) (k : String) (f : Params → Params) :
    m.freeze.write k f = .error ⟨k⟩ := by
  simp [write, frozen_freeze]

end Merger

end SearchGateway
