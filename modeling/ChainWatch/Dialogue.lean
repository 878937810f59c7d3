/-!
# Dialogues

Parts of the program ask something outside it, go on with the answer, and ask again. A `Dialogue` is
such a part as data: it is done with a value, or it asks a question and says how to go on for every
answer. Nothing in it decides who answers. `Dialogue.runM` lets any monad answer;
`Dialogue.run` lets a function answer and tells which questions were asked, in their order.
-/

namespace ChainWatch

/-- A computation that asks questions. -/
inductive Dialogue (Question Answer : Type) (α : Type) where
  /-- It is done. -/
  | done (a : α)
  /-- It asks, and goes on with the answer. -/
  | ask (question : Question) (next : Answer → Dialogue Question Answer α)

namespace Dialogue

variable {Question Answer α β : Type}

/-- Ask one question. -/
def question (q : Question) : Dialogue Question Answer Answer :=
  .ask q .done

/-- Go on with another dialogue. -/
def bind (d : Dialogue Question Answer α) (f : α → Dialogue Question Answer β) :
    Dialogue Question Answer β :=
  match d with
  | .done a => f a
  | .ask q next => .ask q fun answer => (next answer).bind f

instance : Monad (Dialogue Question Answer) where
  pure := .done
  bind := bind

/-- Let a monad answer. -/
def runM {m : Type → Type} [Monad m] (answer : Question → m Answer) :
    Dialogue Question Answer α → m α
  | .done a => pure a
  | .ask q next => do
    let a ← answer q
    (next a).runM answer

/-- Let a function answer: the value, and the questions asked for it. -/
def run (answer : Question → Answer) : Dialogue Question Answer α → α × List Question
  | .done a => (a, [])
  | .ask q next =>
    let (value, questions) := (next (answer q)).run answer
    (value, q :: questions)

@[simp] theorem pure_eq_done (a : α) : (pure a : Dialogue Question Answer α) = .done a := rfl

@[simp] theorem run_done (answer : Question → Answer) (a : α) :
    (Dialogue.done a).run answer = (a, []) := rfl

@[simp] theorem run_ask (answer : Question → Answer) (q : Question)
    (next : Answer → Dialogue Question Answer α) :
    (Dialogue.ask q next).run answer
      = (((next (answer q)).run answer).1, q :: ((next (answer q)).run answer).2) := rfl

/-- Only the questions that are asked matter. -/
theorem run_congr {answer answer' : Question → Answer} {d : Dialogue Question Answer α}
    (h : ∀ q ∈ (d.run answer).2, answer q = answer' q) : d.run answer = d.run answer' := by
  induction d with
  | done a => rfl
  | ask q next ih =>
    rw [run_ask, List.forall_mem_cons] at h
    rw [run_ask, run_ask, ih _ h.2, h.1]

/-- What follows a dialogue asks its questions after those of the dialogue. -/
theorem run_bind (answer : Question → Answer) (d : Dialogue Question Answer α)
    (f : α → Dialogue Question Answer β) :
    (d.bind f).run answer
      = (((f (d.run answer).1).run answer).1,
          (d.run answer).2 ++ ((f (d.run answer).1).run answer).2) := by
  induction d with
  | done a => rfl
  | ask q next ih => simp only [bind, run_ask, ih, List.cons_append]

/-- The same for a monad that answers. -/
theorem runM_bind {m : Type → Type} [Monad m] [LawfulMonad m] (answer : Question → m Answer)
    (d : Dialogue Question Answer α) (f : α → Dialogue Question Answer β) :
    (d.bind f).runM answer = d.runM answer >>= fun a => (f a).runM answer := by
  induction d with
  | done a => rw [bind, runM, pure_bind]
  | ask q next ih => simp only [bind, runM, ih, bind_assoc]

/-- What holds of a state, and is kept by every answer, holds of it after the dialogue. -/
theorem runM_keeps {σ : Type} {P : σ → Prop} {answer : Question → StateM σ Answer}
    (h : ∀ q s, P s → P ((answer q).run s).2) (d : Dialogue Question Answer α) {s : σ} (hs : P s) :
    P ((d.runM answer).run s).2 := by
  induction d generalizing s with
  | done a => exact hs
  | ask q next ih => exact ih _ (h q s hs)

end Dialogue

end ChainWatch
