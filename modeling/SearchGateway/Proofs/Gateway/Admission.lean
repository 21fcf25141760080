import SearchGateway.Gateway.Handling
import SearchGateway.Proofs.Params.Pairs

/-!
# Admission of a request

An admitted request leaves a merger that has taken every parameter of the caller and has not
been read.  What it will give when it is read is told here without a merger: the caller's
values in the place of the handler's defaults, and the forced values over both.

    admission r handler params = .ok m    only for an admitted request to a configured handler
    m.params.entries = outgoingPairs r h params                        (admission_eq_ok)

Filling the merger never fails, since nothing reads it on the way.
-/

namespace SearchGateway.Gateway

open Entries (amend)

/-- The parameters that the backend is called with, before any access filter. -/
def outgoingPairs (r : Runtime) (h : Config.Handler) (params : Params) :
    List (String × List String) :=
  Merger.overlay r.settings.cumulative (Config.Setting.params h.forced).entries
    (params.entries.foldl (fun es e => amend e.1 (fun _ => e.2) es)
      (Config.Setting.params h.defaults).entries)

theorem entries_foldl_insert (es : List (String × List String)) (m : Params) :
    (es.foldl (fun m e => m.insert e.1 e.2) m).entries =
      es.foldl (fun es e => amend e.1 (fun _ => e.2) es) m.entries := by
  induction es generalizing m with
  | nil => rfl
  | cons e r ih =>
    rw [List.foldl_cons, List.foldl_cons, ih, Ordered.entries_insert]

/-- A merger that has not been read takes every parameter. -/
theorem fill_of_open {m : Merger} (hm : m.frozen = false) (es : List (String × List String)) :
    fill m es = .ok { m with values := es.foldl (fun m e => m.insert e.1 e.2) m.values } := by
  induction es generalizing m with
  | nil => rfl
  | cons e r ih =>
    obtain ⟨k, vs⟩ := e
    have hput : m.putAll k vs = .ok { m with values := m.values.insert k vs } := by
      unfold Merger.putAll Merger.write
      rw [if_neg (by simp [hm])]
    simp only [fill, hput, List.foldl_cons]
    exact ih hm

/-- A request that is not admitted is denied with its decision. -/
theorem admission_of_denied {r : Runtime} {handler : String} {params : Params}
    (h : (r.profile.decide handler params none).allowed = false) :
    admission r handler params =
      .error (.denied (r.profile.decide handler params none).report) := by
  simp [admission, h]

theorem admission_of_unconfigured {r : Runtime} {handler : String} {params : Params}
    (ha : (r.profile.decide handler params none).allowed = true)
    (hh : r.settings.handler? handler = none) :
    admission r handler params = .error (.unknownHandler handler) := by
  simp [admission, ha, hh]

/-- **An admitted request to a configured handler always gets a merger**, and it gives the
caller's values over the defaults, under the forced ones. -/
theorem admission_eq_ok {r : Runtime} {handler : String} {params : Params} {h : Config.Handler}
    (ha : (r.profile.decide handler params none).allowed = true)
    (hh : r.settings.handler? handler = some h) :
    ∃ m, admission r handler params = .ok m ∧ m.params.entries = outgoingPairs r h params := by
  let start : Merger := .start (Config.Setting.params h.defaults) (Config.Setting.params h.forced)
    r.settings.cumulative
  have hfill := fill_of_open (m := start) rfl params.entries
  have hadm : admission r handler params = fill start params.entries := by
    simp [admission, ha, hh, start]
  refine ⟨_, hadm.trans hfill, ?_⟩
  simp only [Merger.params, Merger.freeze, start, Merger.start, Bool.false_eq_true, if_false]
  rw [Merger.entries_merged, entries_foldl_insert]
  rfl

end SearchGateway.Gateway
