/-!
Computations that ask their surroundings questions and go on with the answers.

A dialogue has finished or stands at a question. Between two questions nothing else can happen;
while one is open anything can. Running a dialogue alone, with a handler that answers at once, is
one way to use it; keeping it in a state and resuming it when an answer arrives is another.
-/

set_option autoImplicit false

namespace ShardedWorld

inductive Dialogue (Question : Type) (Answer : Question → Type) (α : Type) where
  | finished (result : α)
  | ask (question : Question) (resume : Answer question → Dialogue Question Answer α)

namespace Dialogue

variable {Question : Type} {Answer : Question → Type} {α β σ : Type}

def bind : Dialogue Question Answer α → (α → Dialogue Question Answer β) →
    Dialogue Question Answer β
  | finished result, next => next result
  | ask question resume, next => ask question fun answer => (resume answer).bind next

instance : Monad (Dialogue Question Answer) where
  pure := finished
  bind := bind

def put (question : Question) : Dialogue Question Answer (Answer question) :=
  ask question finished

def run (handle : (question : Question) → σ → Answer question × σ) :
    Dialogue Question Answer α → σ → α × σ
  | finished result, s => (result, s)
  | ask question resume, s =>
    let (answer, s) := handle question s
    (resume answer).run handle s

/-- The same dialogue, which ends early when a question is met by an interruption in place of an
answer. -/
def interruptible (ε : Type) : Dialogue Question Answer α →
    Dialogue Question (fun question => Except ε (Answer question)) (Except ε α)
  | finished result => finished (.ok result)
  | ask question resume => ask question fun
    | .ok answer => (resume answer).interruptible ε
    | .error e => finished (.error e)

@[simp] theorem run_finished (handle : (question : Question) → σ → Answer question × σ) (a : α)
    (s : σ) : (finished a : Dialogue Question Answer α).run handle s = (a, s) := rfl

@[simp] theorem run_bind (handle : (question : Question) → σ → Answer question × σ)
    (d : Dialogue Question Answer α) (next : α → Dialogue Question Answer β) (s : σ) :
    (d.bind next).run handle s = (next (d.run handle s).1).run handle (d.run handle s).2 := by
  induction d generalizing s with
  | finished => rfl
  | ask question resume ih => exact ih _ _

end Dialogue

end ShardedWorld
