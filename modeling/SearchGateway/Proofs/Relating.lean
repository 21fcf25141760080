import SearchGateway.Dialogue

/-!
# Dialogues side by side

Two dialogues are related if they ask the same questions as long as they get related answers, and
end with related results.  In worlds that go along with each other they do.

    Dialogue.Related R E d d'    related answers lead from `d` and `d'` to related results
    Related.bind                 one dialogue after the other
    Related.answer               questions settled by other questions
    Related.run                  what comes out, and what is asked, in two worlds
    run_eq_of_agree              worlds that agree on what is asked cannot be told apart
-/

namespace SearchGateway.Dialogue

variable {Q P S S' : Type} {A : Q → Type} {B : P → Type} {α α' β β' : Type}

/-- As long as answers are related by `R` the same is asked, and the results are related by
`E`. -/
inductive Related (R : (q : Q) → A q → A q → Prop) (E : α → α' → Prop) :
    Dialogue Q A α → Dialogue Q A α' → Prop
  | done (a : α) (b : α') (h : E a b) : Related R E (.done a) (.done b)
  | ask (q : Q) (next : A q → Dialogue Q A α) (next' : A q → Dialogue Q A α')
    (h : ∀ x y, R q x y → Related R E (next x) (next' y)) :
    Related R E (.ask q next) (.ask q next')

/-- Two worlds that go along with each other: from states that belong together they give related
answers, and the states that they leave belong together again. -/
def GoAlong (R : (q : Q) → A q → A q → Prop) (Belong : S → S' → Prop)
    (world : (q : Q) → S → A q × S) (world' : (q : Q) → S' → A q × S') : Prop :=
  ∀ q s s', Belong s s' →
    R q (world q s).1 (world' q s').1 ∧ Belong (world q s).2 (world' q s').2

namespace Related

variable {R : (q : Q) → A q → A q → Prop} {E : α → α' → Prop}
variable {d : Dialogue Q A α} {d' : Dialogue Q A α'}

theorem bind {F : β → β' → Prop} {f : α → Dialogue Q A β} {f' : α' → Dialogue Q A β'}
    (h : Related R E d d') (hf : ∀ a b, E a b → Related R F (f a) (f' b)) :
    Related R F (d.bind f) (d'.bind f') := by
  induction h with
  | done a b hab => exact hf a b hab
  | ask q next next' _ ih => exact .ask q _ _ fun x y hxy => ih x y hxy

/-- In worlds that go along with each other the results are related, after the same questions. -/
theorem run {Belong : S → S' → Prop} {world : (q : Q) → S → A q × S}
    {world' : (q : Q) → S' → A q × S'} (h : Related R E d d')
    (hw : GoAlong R Belong world world') {s : S} {s' : S'} (hs : Belong s s') :
    E (d.run world s).1 (d'.run world' s').1 ∧ d.asked world s = d'.asked world' s' := by
  induction h generalizing s s' with
  | done a b hab => exact ⟨hab, rfl⟩
  | ask q next next' _ ih =>
    obtain ⟨hanswers, hstates⟩ := hw q s s' hs
    obtain ⟨hresults, hasked⟩ := ih _ _ hanswers hstates
    exact ⟨hresults, congrArg (q :: ·) hasked⟩

end Related

/-- Where every question is settled with the same result, the dialogue has the same result. -/
theorem Related.answer {R : (q : P) → B q → B q → Prop}
    {settle : (q : Q) → Dialogue P B (A q)} (hs : ∀ q, Related R Eq (settle q) (settle q))
    (d : Dialogue Q A α) : Related R Eq (d.answer settle) (d.answer settle) := by
  induction d with
  | done a => exact .done a a rfl
  | ask q next ih =>
    refine (hs q).bind fun x y hxy => ?_
    subst hxy
    exact ih x

/-- What a world answers to other questions makes no difference. -/
theorem run_eq_of_agree {world world' : (q : Q) → S → A q × S} {d : Dialogue Q A α} {s : S}
    (h : ∀ q ∈ d.asked world s, world' q = world q) : d.run world' s = d.run world s := by
  induction d generalizing s with
  | done a => rfl
  | ask q next ih =>
    have hq : world' q = world q := h q List.mem_cons_self
    simp only [run, hq]
    exact ih _ fun p hp => h p (List.mem_cons_of_mem q hp)

end SearchGateway.Dialogue
