/-!
# Dialogues

A computation that puts questions to the outside world is a tree: it is done, or it asks
and goes on with the answer.  What the world answers is not part of the tree, so what a
computation asks, and in which order, can be told for every world.

    Dialogue.run        the result in a world that remembers something
    Dialogue.asked      the questions that are asked on the way
    Dialogue.answer     puts a dialogue in the place of each question
    Dialogue.run_bind   one dialogue after the other
-/

namespace SearchGateway

/-- A result, or a question and what is done with its answer. -/
inductive Dialogue (Q : Type) (A : Q → Type) (α : Type)
  | done (a : α)
  | ask (q : Q) (next : A q → Dialogue Q A α)

namespace Dialogue

variable {Q R S : Type} {A : Q → Type} {B : R → Type} {α β : Type}

/-! ## Algorithm -/

def bind : Dialogue Q A α → (α → Dialogue Q A β) → Dialogue Q A β
  | done a, f => f a
  | ask q next, f => ask q fun x => (next x).bind f

instance : Monad (Dialogue Q A) where
  pure := done
  bind := bind

/-- Asks one question. -/
def question (q : Q) : Dialogue Q A (A q) := ask q done

/-- The result in a world whose answers depend on what it remembers. -/
def run (world : (q : Q) → S → A q × S) : Dialogue Q A α → S → α × S
  | done a, s => (a, s)
  | ask q next, s => (next (world q s).1).run world (world q s).2

/-- The questions that are asked in such a world, in order. -/
def asked (world : (q : Q) → S → A q × S) : Dialogue Q A α → S → List Q
  | done _, _ => []
  | ask q next, s => q :: (next (world q s).1).asked world (world q s).2

/-- Every question is settled by a dialogue of its own. -/
def answer (settle : (q : Q) → Dialogue R B (A q)) : Dialogue Q A α → Dialogue R B α
  | done a => done a
  | ask q next => (settle q).bind fun x => (next x).answer settle

/-! ## Lemmas -/

theorem run_bind (world : (q : Q) → S → A q × S) (d : Dialogue Q A α) (f : α → Dialogue Q A β)
    (s : S) : (d.bind f).run world s = (f (d.run world s).1).run world (d.run world s).2 := by
  induction d generalizing s with
  | done a => rfl
  | ask q next ih => exact ih _ _

theorem asked_bind (world : (q : Q) → S → A q × S) (d : Dialogue Q A α) (f : α → Dialogue Q A β)
    (s : S) : (d.bind f).asked world s =
      d.asked world s ++ (f (d.run world s).1).asked world (d.run world s).2 := by
  induction d generalizing s with
  | done a => rfl
  | ask q next ih => simp [bind, asked, run, ih]

theorem bind_done (d : Dialogue Q A α) : d.bind done = d := by
  induction d with
  | done a => rfl
  | ask q next ih => simp [bind, ih]

theorem bind_assoc {γ : Type} (d : Dialogue Q A α) (f : α → Dialogue Q A β)
    (g : β → Dialogue Q A γ) : (d.bind f).bind g = d.bind fun a => (f a).bind g := by
  induction d with
  | done a => rfl
  | ask q next ih => simp [bind, ih]

end Dialogue

end SearchGateway
