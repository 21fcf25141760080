import SearchGateway.Gateway.Reloading
import SearchGateway.Proofs.Gateway.Reloads

/-!
# No change is lost

Whoever writes the configuration, the notifier, the watcher and the reloader take their steps in
any order.  A write may fall between any two of them: between the batch that tells of it and the
look at the batch, or between the time when the reloader has read the file and the time when it
puts in force what it has read.  Nothing is lost all the same.  Every batch that concerns the file
makes the reloader read it once, so as many readings are still to come as such batches have not
been dealt with; and a batch that follows a write is not dealt with before the file has been read
once more.

    standing             what stands at the path after some steps
    readings             what the reloader has read in the course of them
    concerning           how many batches that concern the file have been delivered
    Announced            after every write there comes such a batch
    Reloading.Follows    where the steps have led to
    last_change_counts   what is in force once there is nothing left to do

What is in force is followed as the history of reloads that it is.
-/

namespace SearchGateway.Gateway

open Kept (Event InForce)

/-! ## Algorithm -/

/-- What stands at the path after some steps. -/
def standing (file : Config.Found) : List ReloadStep → Config.Found
  | [] => file
  | .change file :: r => standing file r
  | _ :: r => standing file r

/-- What the reloader reads in the course of some steps. -/
def readings (file : Config.Found) : List ReloadStep → List Config.Found
  | [] => []
  | .change file :: r => readings file r
  | .read :: r => file :: readings file r
  | _ :: r => readings file r

/-- Whether a step delivers a batch that concerns a file. -/
def ReloadStep.concerns (name : String) : ReloadStep → Bool
  | .deliver batch => batch.touches name
  | _ => false

/-- Whether a step changes what stands at the path. -/
def ReloadStep.isChange : ReloadStep → Bool
  | .change _ => true
  | _ => false

/-- Whether the watcher or the reloader makes a step. -/
def ReloadStep.isOwn : ReloadStep → Bool
  | .change _ | .deliver _ => false
  | .look | .take | .read | .settle => true

/-- How many batches that concern a file are delivered. -/
def concerning (name : String) (steps : List ReloadStep) : Nat := steps.countP (·.concerns name)

/-- After every write there comes a batch that concerns the file. -/
def Announced (name : String) : List ReloadStep → Prop
  | [] => True
  | x :: r => (x.isChange = true → ∃ y ∈ r, y.concerns name = true) ∧ Announced name r

/-- The reloads of what has been read. -/
def attempts (path : String) (env : Config.Variables) (read : List Config.Found) : List Attempt :=
  read.map fun found => ⟨path, env, found⟩

/-- What the reloader has read and not put in force yet. -/
def Reloader.held : Reloader → List Config.Found
  | .holding found => [found]
  | _ => []

/-- Whether the reloader has taken a report and not read the file yet. -/
def Reloader.toRead : Reloader → Nat
  | .called => 1
  | _ => 0

namespace Reloading

/-- Nothing is left to do. -/
structure AtRest (r : Reloading) : Prop where
  batches : r.batches = []
  reports : r.reports = 0
  reloader : r.reloader = .idle

/-- How many batches that concern the file have not led to a reload yet. -/
def due (name : String) (r : Reloading) : Nat :=
  r.reloader.held.length + r.reloader.toRead + r.reports + r.batches.countP (·.touches name)

/-- How many steps are left for the watcher and the reloader, at most. -/
def work (r : Reloading) : Nat :=
  r.reloader.held.length + 2 * r.reloader.toRead + 3 * r.reports + 4 * r.batches.length

/-- Where steps have led to: what has been read is in force, as the reloads of it have gone, but
for what the reloader still holds; and each batch that concerned the file has led to one reload,
or is going to. -/
structure Follows (path : String) (env : Config.Variables) (file : Config.Found) (s : State)
    (steps : List ReloadStep) (r : Reloading) : Prop where
  samePath : r.path = path
  sameEnv : r.env = env
  watching : r.watcher = .watching (fileName path)
  found : r.file = standing file steps
  history : ∃ settled, readings file steps = settled ++ r.reloader.held ∧
    State.kept.run s ((attempts path env settled).map .call) = ⟨r.state, [], r.outcomes⟩
  count : r.outcomes.length + r.due (fileName path) = concerning (fileName path) steps

end Reloading

/-! ## Lemmas -/

variable {path name : String} {env : Config.Variables} {file : Config.Found} {s : State}
  {steps before after : List ReloadStep} {r r' : Reloading} {x : ReloadStep}

/-! ### Steps one after the other -/

theorem standing_append (file : Config.Found) (before after : List ReloadStep) :
    standing file (before ++ after) = standing (standing file before) after := by
  induction before generalizing file with
  | nil => rfl
  | cons x r ih => cases x <;> exact ih _

theorem readings_append (file : Config.Found) (before after : List ReloadStep) :
    readings file (before ++ after) =
      readings file before ++ readings (standing file before) after := by
  induction before generalizing file with
  | nil => rfl
  | cons x r ih =>
    cases x with
    | read => exact congrArg (file :: ·) (ih file)
    | change f => exact ih f
    | _ => exact ih file

theorem concerning_append (name : String) (before after : List ReloadStep) :
    concerning name (before ++ after) = concerning name before + concerning name after :=
  List.countP_append ..

theorem concerning_concat (name : String) (steps : List ReloadStep) (x : ReloadStep) :
    concerning name (steps ++ [x]) =
      concerning name steps + if x.concerns name then 1 else 0 :=
  (concerning_append ..).trans (congrArg _ List.countP_singleton)

/-- A step that writes nothing and reads nothing. -/
theorem readings_concat (file : Config.Found) (steps : List ReloadStep)
    (hchange : x.isChange = false) (hread : x ≠ .read) :
    readings file (steps ++ [x]) = readings file steps ∧
      standing file (steps ++ [x]) = standing file steps := by
  rw [readings_append, standing_append]
  cases x with
  | change f => cases hchange
  | read => exact absurd rfl hread
  | _ => exact ⟨List.append_nil _, rfl⟩

theorem exists_concerns_of_announced {file : Config.Found}
    (h : Announced name (before ++ .change file :: after)) :
    ∃ x ∈ after, x.concerns name = true := by
  induction before with
  | nil => exact h.1 rfl
  | cons x r ih => exact ih h.2

/-- Where nothing is written, the same is read again and again. -/
theorem mem_readings (file : Config.Found) (h : ∀ x ∈ steps, x.isChange = false) :
    standing file steps = file ∧ ∀ found ∈ readings file steps, found = file := by
  induction steps with
  | nil => exact ⟨rfl, fun found hfound => by cases hfound⟩
  | cons x r ih =>
    obtain ⟨hx, hr⟩ := List.forall_mem_cons.mp h
    cases x with
    | change f => cases hx
    | read => exact ⟨(ih hr).1, List.forall_mem_cons.mpr ⟨rfl, (ih hr).2⟩⟩
    | _ => exact ih hr

/-- Of the writes there is a last one. -/
theorem exists_last_change (h : ∃ x ∈ steps, x.isChange = true) :
    ∃ before file after, steps = before ++ .change file :: after ∧
      ∀ x ∈ after, x.isChange = false := by
  induction steps with
  | nil => simp at h
  | cons x r ih =>
    by_cases hr : ∃ y ∈ r, y.isChange = true
    · obtain ⟨before, file, after, rfl, hafter⟩ := ih hr
      exact ⟨x :: before, file, after, rfl, hafter⟩
    · have hnone : ∀ y ∈ r, y.isChange = false := by simpa using hr
      obtain ⟨y, hy, hchange⟩ := h
      rcases List.mem_cons.mp hy with rfl | hy
      · cases y with
        | change file => exact ⟨[], file, r, rfl, hnone⟩
        | _ => cases hchange
      · exact absurd ⟨y, hy, hchange⟩ hr

namespace Reloading

theorem exists_of_run_append {start : Reloading} (h : start.run (before ++ after) = some r) :
    ∃ r', start.run before = some r' ∧ r'.run after = some r := by
  unfold run at h ⊢
  rw [List.foldlM_append] at h
  exact Option.bind_eq_some_iff.mp h

theorem run_concat (r : Reloading) (steps : List ReloadStep) (x : ReloadStep) :
    r.run (steps ++ [x]) = (r.run steps).bind (·.step x) := by
  simp [run, List.foldlM_append]

/-- The watcher goes on whatever a batch is, and reports those that concern the file. -/
theorem receive_watching (name : String) (b : Config.Batch) :
    (Config.Watcher.watching name).receive b =
      (if b.touches name then .changed else .quiet, .watching name) := by
  unfold Config.Watcher.receive Config.Watcher.watching
  cases b.touches name <;> rfl

/-- The watcher looks at a batch: it waits with one that concerns the file until there is room. -/
theorem of_look (hw : r.watcher = .watching name) (h : r.look = some r') :
    ∃ b batches, r.batches = b :: batches ∧
      r' = { r with batches, reports := r.reports + (if b.touches name then 1 else 0) } := by
  unfold look at h
  rw [hw] at h
  split at h
  · cases h
  · next b batches hb =>
    refine ⟨b, batches, hb, ?_⟩
    rw [receive_watching] at h
    cases hc : b.touches name with
    | true =>
      simp only [hc, if_true] at h
      split at h
      · cases h
        rw [← hw, if_pos rfl]
      · cases h
    | false =>
      simp only [hc, Bool.false_eq_true, if_false] at h
      cases h
      rw [← hw, if_neg Bool.false_ne_true]
      rfl

theorem of_take (h : r.take = some r') : r.reloader = .idle ∧ ∃ reports,
    r.reports = reports + 1 ∧ r' = { r with reports, reloader := .called } := by
  unfold take at h
  split at h
  · next reports hidle hreports =>
    cases h
    exact ⟨hidle, reports, hreports, rfl⟩
  · cases h

theorem of_read (h : r.read = some r') :
    r.reloader = .called ∧ r' = { r with reloader := .holding r.file } := by
  unfold read at h
  split at h
  · next hcalled =>
    cases h
    exact ⟨hcalled, rfl⟩
  · cases h

theorem of_settle (h : r.settle = some r') : ∃ found, r.reloader = .holding found ∧
    r' = { r with
      reloader := .idle
      state := (State.kept.call r.state ⟨r.path, r.env, found⟩).1
      outcomes := r.outcomes ++ [(State.kept.call r.state ⟨r.path, r.env, found⟩).2] } := by
  unfold settle at h
  split at h
  · next found hfound =>
    cases h
    exact ⟨found, hfound, rfl⟩
  · cases h

theorem step_watcher (hw : r.watcher = .watching name) (h : r.step x = some r') :
    r'.watcher = .watching name := by
  cases x with
  | change f =>
    cases h
    exact hw
  | deliver b =>
    cases h
    exact hw
  | look =>
    obtain ⟨b, batches, -, rfl⟩ := of_look hw h
    exact hw
  | take =>
    obtain ⟨-, reports, -, rfl⟩ := of_take h
    exact hw
  | read =>
    obtain ⟨-, rfl⟩ := of_read h
    exact hw
  | settle =>
    obtain ⟨found, -, rfl⟩ := of_settle h
    exact hw

/-- A batch that concerns the file is due when it is delivered, and until it has led to a
reload. -/
theorem step_due (hw : r.watcher = .watching name) (h : r.step x = some r') :
    r'.outcomes.length + r'.due name =
      r.outcomes.length + r.due name + if x.concerns name then 1 else 0 := by
  unfold due
  cases x with
  | change f =>
    cases h
    rfl
  | deliver b =>
    cases h
    have hb : (ReloadStep.deliver b).concerns name = b.touches name := rfl
    simp only [hb, List.countP_append, List.countP_singleton]
    omega
  | look =>
    obtain ⟨b, batches, hb, rfl⟩ := of_look hw h
    simp only [hb, List.countP_cons, ReloadStep.concerns, Bool.false_eq_true, if_false]
    omega
  | take =>
    obtain ⟨hidle, reports, hreports, rfl⟩ := of_take h
    simp [hidle, hreports, Reloader.held, Reloader.toRead, ReloadStep.concerns]
    omega
  | read =>
    obtain ⟨hcalled, rfl⟩ := of_read h
    simp [hcalled, Reloader.held, Reloader.toRead, ReloadStep.concerns]
  | settle =>
    obtain ⟨found, hholding, rfl⟩ := of_settle h
    simp [hholding, Reloader.held, Reloader.toRead, ReloadStep.concerns]
    omega

/-- With each of their steps the watcher and the reloader have less left to do. -/
theorem step_work (hw : r.watcher = .watching name) (hown : x.isOwn = true)
    (h : r.step x = some r') : r'.work < r.work := by
  unfold work
  cases x with
  | change f => cases hown
  | deliver b => cases hown
  | look =>
    obtain ⟨b, batches, hb, rfl⟩ := of_look hw h
    simp only [hb, List.length_cons]
    split <;> omega
  | take =>
    obtain ⟨hidle, reports, hreports, rfl⟩ := of_take h
    simp only [hidle, hreports, Reloader.held, Reloader.toRead]
    omega
  | read =>
    obtain ⟨hcalled, rfl⟩ := of_read h
    simp [hcalled, Reloader.held, Reloader.toRead]
  | settle =>
    obtain ⟨found, hholding, rfl⟩ := of_settle h
    simp [hholding, Reloader.held, Reloader.toRead]

/-- As long as something is left to do, one of them can do it. -/
theorem exists_own_step (hw : r.watcher = .watching name) (h : ¬ r.AtRest) :
    ∃ x, x.isOwn = true ∧ (r.step x).isSome = true := by
  cases hreloader : r.reloader with
  | called =>
    refine ⟨.read, rfl, ?_⟩
    simp only [step, read, hreloader, Option.isSome_some]
  | holding found =>
    refine ⟨.settle, rfl, ?_⟩
    simp only [step, settle, hreloader, Option.isSome_some]
  | idle =>
    cases hreports : r.reports with
    | succ reports =>
      refine ⟨.take, rfl, ?_⟩
      simp only [step, take, hreloader, hreports, Option.isSome_some]
    | zero =>
      cases hbatches : r.batches with
      | nil => exact absurd ⟨hbatches, hreports, hreloader⟩ h
      | cons b batches =>
        refine ⟨.look, rfl, ?_⟩
        have hroom : 0 < reportRoom := by decide
        simp only [step, look, hbatches, hw, receive_watching, hreports, hroom]
        cases b.touches name <;> rfl

/-! ### Following -/

namespace Follows

theorem begin (path : String) (env : Config.Variables) (file : Config.Found) (s : State) :
    Follows path env file s [] (.begin path env file s) where
  samePath := rfl
  sameEnv := rfl
  watching := rfl
  found := rfl
  history := ⟨[], rfl, rfl⟩
  count := rfl

/-- Each step leads on. -/
theorem step (h : Follows path env file s steps r) (hx : r.step x = some r') :
    Follows path env file s (steps ++ [x]) r' := by
  obtain ⟨settled, hreadings, hrun⟩ := h.history
  have hcount : r'.outcomes.length + r'.due (fileName path) =
      concerning (fileName path) (steps ++ [x]) := by
    rw [step_due h.watching hx, h.count, concerning_concat]
  cases x with
  | change f =>
    cases hx
    refine { h with found := ?_, history := ⟨settled, ?_, hrun⟩, count := hcount }
    · rw [standing_append]
      rfl
    · rw [readings_append, hreadings]
      exact List.append_nil _
  | deliver b =>
    cases hx
    obtain ⟨hsame, hstands⟩ := readings_concat file steps (x := .deliver b) rfl nofun
    exact { h with
      found := h.found.trans hstands.symm
      history := ⟨settled, hsame.trans hreadings, hrun⟩
      count := hcount }
  | look =>
    obtain ⟨b, batches, -, rfl⟩ := of_look h.watching hx
    obtain ⟨hsame, hstands⟩ := readings_concat file steps (x := .look) rfl nofun
    exact { h with
      found := h.found.trans hstands.symm
      history := ⟨settled, hsame.trans hreadings, hrun⟩
      count := hcount }
  | take =>
    obtain ⟨hidle, reports, -, rfl⟩ := of_take hx
    obtain ⟨hsame, hstands⟩ := readings_concat file steps (x := .take) rfl nofun
    rw [hidle] at hreadings
    exact { h with
      found := h.found.trans hstands.symm
      history := ⟨settled, hsame.trans hreadings, hrun⟩
      count := hcount }
  | read =>
    obtain ⟨hcalled, rfl⟩ := of_read hx
    rw [hcalled] at hreadings
    refine { h with found := ?_, history := ⟨settled, ?_, hrun⟩, count := hcount }
    · rw [standing_append]
      exact h.found
    · rw [readings_append, hreadings, ← h.found]
      simp [Reloader.held, readings]
  | settle =>
    obtain ⟨found, hholding, rfl⟩ := of_settle hx
    obtain ⟨hsame, hstands⟩ := readings_concat file steps (x := .settle) rfl nofun
    rw [hholding] at hreadings
    refine { h with
      found := h.found.trans hstands.symm
      history := ⟨settled ++ [found], ?_, ?_⟩
      count := hcount }
    · rw [hsame, hreadings]
      exact (List.append_nil _).symm
    · rw [attempts, List.map_append, List.map_append, List.map_singleton, List.map_singleton,
        Kept.run_concat, ← attempts, hrun, h.samePath, h.sameEnv]
      rfl

/-- A run leads to where its steps lead. -/
theorem run {start : Reloading} (hstart : Follows path env file s [] start)
    (h : start.run steps = some r) : Follows path env file s steps r := by
  induction steps using List.reverseRecOn generalizing r with
  | nil =>
    cases h
    exact hstart
  | append_singleton steps x ih =>
    rw [run_concat] at h
    obtain ⟨r', hr', hx⟩ := Option.bind_eq_some_iff.mp h
    exact (ih hr').step hx

/-- What has been read has been put in force, or is held. -/
theorem length_readings (h : Follows path env file s steps r) :
    (readings file steps).length = r.outcomes.length + r.reloader.held.length := by
  obtain ⟨settled, hreadings, hrun⟩ := h.history
  have hlength := Kept.length_outcomes_run State.kept s ((attempts path env settled).map .call)
  rw [hrun, Kept.inputs_map_call, attempts, List.length_map] at hlength
  rw [hreadings, List.length_append, ← hlength]

/-- The file is not read more often than batches concern it. -/
theorem length_readings_le (h : Follows path env file s steps r) :
    (readings file steps).length ≤ concerning (fileName path) steps := by
  have hcount := h.count
  unfold due at hcount
  rw [h.length_readings]
  omega

/-- When nothing is left to do, each batch that concerns the file has led to a reload. -/
theorem length_of_atRest (h : Follows path env file s steps r) (hrest : r.AtRest) :
    r.outcomes.length = concerning (fileName path) steps ∧
      (readings file steps).length = concerning (fileName path) steps := by
  have hcount := h.count
  have hlength := h.length_readings
  unfold due at hcount
  rw [hrest.reloader] at hlength hcount
  rw [hrest.reports, hrest.batches] at hcount
  simp only [Reloader.held, Reloader.toRead, List.length_nil, List.countP_nil] at hlength hcount
  omega

/-- When nothing is left to do, the last good configuration of those that were read is in
force. -/
theorem inForce_of_atRest (h : Follows path env file s steps r) (hrest : r.AtRest) :
    InForce Attempt.make s (attempts path env (readings file steps)) r.state := by
  obtain ⟨settled, hreadings, hrun⟩ := h.history
  have hforce := swaps_state.inForce_run s ((attempts path env settled).map .call)
  simp only [hrest.reloader, Reloader.held, List.append_nil] at hreadings
  rw [hrun, Kept.inputs_map_call] at hforce
  rw [hreadings]
  exact hforce

end Follows

/-- When nothing is left to do, the file has been read since it was written last: a batch came
after that, and not all batches would have been dealt with otherwise. -/
theorem getLast?_readings (h : (Reloading.begin path env file s).run steps = some r)
    (hrest : r.AtRest) (hann : Announced (fileName path) steps)
    (hchange : ∃ x ∈ steps, x.isChange = true) :
    (readings file steps).getLast? = some r.file := by
  have hfollows := (Follows.begin path env file s).run h
  obtain ⟨before, last, after, rfl, hafter⟩ := exists_last_change hchange
  obtain ⟨r₁, hbefore, -⟩ := exists_of_run_append h
  have hle := ((Follows.begin path env file s).run hbefore).length_readings_le
  have hall := (hfollows.length_of_atRest hrest).2
  obtain ⟨hstands, hread⟩ := mem_readings last hafter
  have hsome : 0 < concerning (fileName path) after :=
    List.countP_pos_iff.mpr (exists_concerns_of_announced hann)
  have hfound : r.file = last := by
    rw [hfollows.found, standing_append]
    exact hstands
  have hreadings : readings file (before ++ .change last :: after) =
      readings file before ++ readings last after := readings_append ..
  have hconcerning : concerning (fileName path) (before ++ .change last :: after) =
      concerning (fileName path) before + concerning (fileName path) after := concerning_append ..
  rw [hreadings, hconcerning, List.length_append] at hall
  have hne : readings last after ≠ [] := by
    intro hnil
    rw [hnil, List.length_nil] at hall
    omega
  rw [hreadings, List.getLast?_append, List.getLast?_eq_some_getLast hne,
    hread _ (List.getLast_mem hne), hfound]
  rfl

/-- The watcher and the reloader cannot go on for ever. -/
theorem length_le_work (hw : r.watcher = .watching name) (hown : ∀ x ∈ steps, x.isOwn = true)
    (h : r.run steps = some r') : steps.length + r'.work ≤ r.work := by
  induction steps generalizing r with
  | nil =>
    cases h
    simp
  | cons x rest ih =>
    have hbind : (r.step x).bind (·.run rest) = some r' := h
    obtain ⟨r₁, hx, hrest⟩ := Option.bind_eq_some_iff.mp hbind
    obtain ⟨hown, howns⟩ := List.forall_mem_cons.mp hown
    have hstep := step_work hw hown hx
    have hle := ih (step_watcher hw hx) howns hrest
    rw [List.length_cons]
    omega

end Reloading

/-! ## Top theorem -/

/-- **No change of the configuration is lost**, in whatever order steps are taken.  Each batch
that concerns the file leads to one reload, and no other batch does.  The watcher and the reloader
go on until nothing is left to do.  By then the last good configuration of those that were read is
in force, and if there were writes, the last that was read is what stands at the path. -/
theorem last_change_counts (h : (Reloading.begin path env file s).run steps = some r) :
    r.watcher = .watching (fileName path) ∧
    r.outcomes.length + r.due (fileName path) = concerning (fileName path) steps ∧
    (r.AtRest →
      r.outcomes.length = concerning (fileName path) steps ∧
      InForce Attempt.make s (attempts path env (readings file steps)) r.state ∧
      (Announced (fileName path) steps → (∃ x ∈ steps, x.isChange = true) →
        (readings file steps).getLast? = some r.file ∧
        ∀ n, Attempt.make ⟨path, env, r.file⟩ = .ok n → r.state = n)) ∧
    (¬ r.AtRest → ∃ x, x.isOwn = true ∧ (r.step x).isSome = true) ∧
    ∀ own r', (∀ x ∈ own, x.isOwn = true) → r.run own = some r' →
      own.length + r'.work ≤ r.work := by
  have hfollows := (Reloading.Follows.begin path env file s).run h
  refine ⟨hfollows.watching, hfollows.count, fun hrest => ⟨(hfollows.length_of_atRest hrest).1,
    hfollows.inForce_of_atRest hrest, fun hann hchange => ?_⟩,
    Reloading.exists_own_step hfollows.watching,
    fun own r' hown hrun => Reloading.length_le_work hfollows.watching hown hrun⟩
  have hlast := Reloading.getLast?_readings h hrest hann hchange
  refine ⟨hlast, fun n hn => (hfollows.inForce_of_atRest hrest).eq_of_getLast? ?_ hn⟩
  rw [attempts, List.getLast?_map, hlast]
  rfl

/-- A file that is a folder for a while.  It is put right while the reloader still holds what it
read before, and batches come that tell of a failure or of another file. -/
def unsteady : List ReloadStep :=
  [.change .folder, .deliver (.changes [.write "solrgate.toml"]), .look, .take, .read,
    .change regained.found, .deliver .failure, .deliver (.changes [.write "notes.txt"]),
    .settle, .deliver (.changes [.rename "new" "solrgate.toml", .write "solrgate.toml"]),
    .look, .look, .look, .take, .read, .settle]

/-- In the end it is in force as it was put right, after two reloads. -/
theorem last_change_counts_unsteady : ∃ r₀ r n, Runtime.build restricted = .ok r₀ ∧
    (Reloading.begin "solrgate.toml" [] .nothing (.ofRuntime r₀)).run unsteady = some r ∧
    r.AtRest ∧ Announced (fileName "solrgate.toml") unsteady ∧ regained.make = .ok n ∧
    r.state = n ∧ r.outcomes.length = 2 := by
  have hrestricted : (Runtime.build restricted).isOk = true := by decide +kernel
  have hregained : regained.make.isOk = true := by decide +kernel
  cases hr : Runtime.build restricted with
  | error e =>
    rw [hr] at hrestricted
    cases hrestricted
  | ok r₀ =>
    cases hn : regained.make with
    | error e =>
      rw [hn] at hregained
      cases hregained
    | ok n =>
      obtain ⟨r, hrun, hrest, hfile⟩ : ∃ r,
          (Reloading.begin "solrgate.toml" [] .nothing (.ofRuntime r₀)).run unsteady = some r ∧
          r.AtRest ∧ r.file = regained.found := ⟨_, rfl, ⟨rfl, rfl, rfl⟩, rfl⟩
      have hann : Announced (fileName "solrgate.toml") unsteady := by
        simp only [Announced, unsteady]
        decide +kernel
      obtain ⟨-, -, hatRest, -⟩ := last_change_counts hrun
      obtain ⟨hlength, -, hlast⟩ := hatRest hrest
      refine ⟨r₀, r, n, rfl, hrun, hrest, hann, rfl, ?_, ?_⟩
      · refine (hlast hann ⟨.change .folder, List.mem_cons_self, rfl⟩).2 n ?_
        rw [hfile]
        exact hn
      · rw [hlength]
        decide +kernel

end SearchGateway.Gateway
