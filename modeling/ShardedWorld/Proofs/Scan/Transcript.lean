import ShardedWorld.Entity.Scan

/-! What is said in a dialogue.

A dialogue leads through questions and answers to a result. However it is answered, running it is
one of the ways through it.
-/

set_option autoImplicit false

namespace ShardedWorld

namespace Dialogue

variable {Question : Type} {Answer : Question → Type} {α β σ : Type}

structure Exchange (Question : Type) (Answer : Question → Type) where
  question : Question
  answer : Answer question

inductive Leads : Dialogue Question Answer α → List (Exchange Question Answer) → α → Prop where
  | finished (a : α) : Leads (.finished a) [] a
  | ask {question : Question} {resume : Answer question → Dialogue Question Answer α}
      {said : List (Exchange Question Answer)} {a : α} (answer : Answer question) :
      Leads (resume answer) said a → Leads (.ask question resume) (⟨question, answer⟩ :: said) a

def converse (handle : (question : Question) → σ → Answer question × σ) :
    Dialogue Question Answer α → σ → α × List (Exchange Question Answer) × σ
  | finished a, s => (a, [], s)
  | ask question resume, s =>
    let (answer, s) := handle question s
    let (a, said, s) := (resume answer).converse handle s
    (a, ⟨question, answer⟩ :: said, s)

theorem converse_run (handle : (question : Question) → σ → Answer question × σ)
    (d : Dialogue Question Answer α) (s : σ) :
    d.run handle s = ((d.converse handle s).1, (d.converse handle s).2.2) := by
  induction d generalizing s with
  | finished a => rfl
  | ask question resume ih => exact ih _ _

theorem converse_leads (handle : (question : Question) → σ → Answer question × σ)
    (d : Dialogue Question Answer α) (s : σ) :
    d.Leads (d.converse handle s).2.1 (d.converse handle s).1 := by
  induction d generalizing s with
  | finished a => exact .finished a
  | ask question resume ih => exact .ask _ (ih _ _)

theorem answer_of_mem_converse {handle : (question : Question) → σ → Answer question × σ}
    {d : Dialogue Question Answer α} {s : σ} {x : Exchange Question Answer}
    (mem : x ∈ (d.converse handle s).2.1) : ∃ s', x.answer = (handle x.question s').1 := by
  induction d generalizing s with
  | finished a => cases mem
  | ask question resume ih =>
    rcases List.mem_cons.mp mem with rfl | later
    · exact ⟨s, rfl⟩
    · exact ih _ later

theorem Leads.of_bind {d : Dialogue Question Answer α} {next : α → Dialogue Question Answer β}
    {said : List (Exchange Question Answer)} {b : β} (leads : (d.bind next).Leads said b) :
    ∃ first a second, said = first ++ second ∧ d.Leads first a ∧ (next a).Leads second b := by
  induction d generalizing said with
  | finished a => exact ⟨[], a, said, rfl, .finished a, leads⟩
  | ask question resume ih =>
    obtain _ | ⟨answer, leads⟩ := leads
    obtain ⟨first, a, second, rfl, before, after⟩ := ih answer leads
    exact ⟨⟨question, answer⟩ :: first, a, second, rfl, .ask answer before, after⟩

theorem Leads.bind {d : Dialogue Question Answer α} {next : α → Dialogue Question Answer β}
    {first second : List (Exchange Question Answer)} {a : α} {b : β} (leads : d.Leads first a)
    (rest : (next a).Leads second b) : (d.bind next).Leads (first ++ second) b := by
  induction leads with
  | finished => exact rest
  | ask answer _ ih => exact .ask answer (ih rest)

/-- What is said determines the result. -/
theorem Leads.unique {d : Dialogue Question Answer α} {said : List (Exchange Question Answer)}
    {a b : α} (leads : d.Leads said a) (other : d.Leads said b) : a = b := by
  induction leads with
  | finished =>
    cases other
    rfl
  | ask answer _ ih =>
    obtain _ | ⟨_, other⟩ := other
    exact ih other

/-- Whatever is answered, only allowed questions are asked. -/
def Asks (allowed : Question → Prop) : Dialogue Question Answer α → Prop
  | .finished _ => True
  | .ask question resume => allowed question ∧ ∀ answer, (resume answer).Asks allowed

theorem Asks.bind {allowed : Question → Prop} {d : Dialogue Question Answer α}
    {next : α → Dialogue Question Answer β} (asks : d.Asks allowed)
    (rest : ∀ a, (next a).Asks allowed) : (d.bind next).Asks allowed := by
  induction d with
  | finished a => exact rest a
  | ask question resume ih => exact ⟨asks.1, fun answer => ih answer (asks.2 answer)⟩

theorem Asks.of_mem {allowed : Question → Prop} {d : Dialogue Question Answer α}
    {said : List (Exchange Question Answer)} {a : α} (asks : d.Asks allowed)
    (leads : d.Leads said a) : ∀ x ∈ said, allowed x.question := by
  induction leads with
  | finished => simp
  | ask answer _ ih => exact List.forall_mem_cons.mpr ⟨asks.1, ih (asks.2 answer)⟩

section Interruption

variable {ε : Type}

def Exchange.completed (x : Exchange Question Answer) :
    Exchange Question fun question => Except ε (Answer question) :=
  ⟨x.question, .ok x.answer⟩

theorem Asks.interruptible {allowed : Question → Prop} {d : Dialogue Question Answer α}
    (asks : d.Asks allowed) : (d.interruptible ε).Asks allowed := by
  induction d with
  | finished a => trivial
  | ask question resume ih =>
    rw [Dialogue.interruptible]
    refine ⟨asks.1, ?_⟩
    rintro (e | answer)
    · trivial
    · exact ih answer (asks.2 answer)

theorem Leads.interruptible {d : Dialogue Question Answer α}
    {said : List (Exchange Question Answer)} {a : α} (leads : d.Leads said a) :
    (d.interruptible ε).Leads (said.map .completed) (.ok a) := by
  induction leads with
  | finished a => exact .finished _
  | ask answer _ ih =>
    rw [Dialogue.interruptible, List.map_cons]
    exact .ask _ ih

theorem Leads.of_interruptible {d : Dialogue Question Answer α}
    {said : List (Exchange Question fun question => Except ε (Answer question))} {a : α}
    (leads : (d.interruptible ε).Leads said (.ok a)) :
    ∃ told, d.Leads told a ∧ said = told.map .completed := by
  induction d generalizing said with
  | finished =>
    cases leads
    exact ⟨[], .finished a, rfl⟩
  | ask question resume ih =>
    rw [Dialogue.interruptible] at leads
    obtain _ | ⟨answer, leads⟩ := leads
    cases answer with
    | error e => cases leads
    | ok answer =>
      obtain ⟨told, rest, rfl⟩ := ih answer leads
      exact ⟨⟨question, answer⟩ :: told, .ask answer rest, rfl⟩

end Interruption

end Dialogue

namespace Scan

abbrev Exchange := Dialogue.Exchange Question Answer

end Scan

end ShardedWorld
