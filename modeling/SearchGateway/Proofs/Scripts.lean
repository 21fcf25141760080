import Mathlib.Data.List.Forall2
import SearchGateway.Dialogue

/-!
# Scripts of a dialogue

A script tells the questions of a dialogue together with the answers that were given.  A
dialogue ends in one way for each script, and every world writes one.

    Dialogue.Ends d script a     given these answers, `d` asks these questions and ends with `a`
    ends_bind_iff                one dialogue after the other: one script after the other
    ends_run                     the script that a world writes
    ends_answer                  questions settled by other questions

What is proved of every script holds in every world, whatever it remembers.
-/

namespace SearchGateway.Dialogue

variable {Q R S : Type} {A : Q → Type} {B : R → Type} {α β : Type}

/-- Questions with the answers that were given, in order. -/
abbrev Script (Q : Type) (A : Q → Type) := List ((q : Q) × A q)

/-- What a dialogue asks and is answered in a world. -/
def script (world : (q : Q) → S → A q × S) : Dialogue Q A α → S → Script Q A
  | done _, _ => []
  | ask q next, s =>
    ⟨q, (world q s).1⟩ :: (next (world q s).1).script world (world q s).2

/-- With these questions and answers the dialogue comes to its end. -/
inductive Ends : Dialogue Q A α → Script Q A → α → Prop
  | done (a : α) : Ends (done a) [] a
  | ask (q : Q) (next : A q → Dialogue Q A α) (x : A q) (rest : Script Q A) (a : α)
      (h : Ends (next x) rest a) : Ends (ask q next) (⟨q, x⟩ :: rest) a

/-! ## Lemmas -/

variable {d : Dialogue Q A α} {t : Script Q A}

theorem ends_done_iff {a b : α} : Ends (.done a : Dialogue Q A α) t b ↔ t = [] ∧ a = b := by
  constructor
  · rintro ⟨⟩
    exact ⟨rfl, rfl⟩
  · rintro ⟨rfl, rfl⟩
    exact .done a

theorem ends_ask_iff {q : Q} {next : A q → Dialogue Q A α} {a : α} :
    Ends (.ask q next) t a ↔ ∃ x rest, t = ⟨q, x⟩ :: rest ∧ Ends (next x) rest a := by
  constructor
  · rintro (_ | ⟨_, _, x, rest, _, h⟩)
    exact ⟨x, rest, rfl, h⟩
  · rintro ⟨x, rest, rfl, h⟩
    exact .ask q next x rest a h

/-- One dialogue after the other writes one script after the other. -/
theorem ends_bind_iff {f : α → Dialogue Q A β} {b : β} :
    Ends (d.bind f) t b ↔ ∃ first rest a, t = first ++ rest ∧ Ends d first a ∧ Ends (f a) rest b := by
  induction d generalizing t with
  | done a =>
    constructor
    · intro h
      exact ⟨[], t, a, rfl, .done a, h⟩
    · rintro ⟨first, rest, a', rfl, h, h'⟩
      obtain ⟨rfl, rfl⟩ := ends_done_iff.mp h
      exact h'
  | ask q next ih =>
    show Ends (.ask q fun x => (next x).bind f) t b ↔ _
    rw [ends_ask_iff]
    constructor
    · rintro ⟨x, rest, rfl, h⟩
      obtain ⟨first, rest', a, rfl, h₁, h₂⟩ := (ih x).mp h
      exact ⟨⟨q, x⟩ :: first, rest', a, rfl, .ask q next x first a h₁, h₂⟩
    · rintro ⟨first, rest, a, rfl, h₁, h₂⟩
      obtain ⟨x, first', rfl, h⟩ := ends_ask_iff.mp h₁
      exact ⟨x, first' ++ rest, rfl, (ih x).mpr ⟨first', rest, a, rfl, h, h₂⟩⟩

/-- In a world a dialogue ends as it runs there. -/
theorem ends_run (world : (q : Q) → S → A q × S) (d : Dialogue Q A α) (s : S) :
    Ends d (d.script world s) (d.run world s).1 := by
  induction d generalizing s with
  | done a => exact .done a
  | ask q next ih => exact .ask q next _ _ _ (ih _ _)

/-- The questions of a script are those that are asked. -/
theorem asked_eq_map_script (world : (q : Q) → S → A q × S) (d : Dialogue Q A α) (s : S) :
    d.asked world s = (d.script world s).map Sigma.fst := by
  induction d generalizing s with
  | done a => rfl
  | ask q next ih => exact congrArg (q :: ·) (ih _ _)

/-- The answers of a script are those that the world gives. -/
theorem exists_answer_of_mem {world : (q : Q) → S → A q × S} {s : S} {e : (q : Q) × A q}
    (h : e ∈ d.script world s) : ∃ s', e = ⟨e.1, (world e.1 s').1⟩ := by
  induction d generalizing s with
  | done a => cases h
  | ask q next ih =>
    rcases List.mem_cons.mp h with rfl | h
    · exact ⟨s, rfl⟩
    · exact ih _ h

/-- Where each question is settled by one other question, the scripts go along with each other. -/
theorem ends_answer {settle : (q : Q) → Dialogue R B (A q)}
    {settles : ((q : R) × B q) → ((q : Q) × A q) → Prop}
    (hs : ∀ q u x, Ends (settle q) u x → ∃ e, u = [e] ∧ settles e ⟨q, x⟩) {u : Script R B} {a : α}
    (h : Ends (d.answer settle) u a) : ∃ t, Ends d t a ∧ List.Forall₂ settles u t := by
  induction d generalizing u with
  | done a' =>
    obtain ⟨rfl, rfl⟩ := ends_done_iff.mp h
    exact ⟨[], .done a', .nil⟩
  | ask q next ih =>
    obtain ⟨first, rest, x, rfl, h₁, h₂⟩ := ends_bind_iff.mp h
    obtain ⟨e, rfl, he⟩ := hs q first x h₁
    obtain ⟨t, ht, hrest⟩ := ih x h₂
    exact ⟨⟨q, x⟩ :: t, .ask q next x t a ht, .cons he hrest⟩

end SearchGateway.Dialogue
