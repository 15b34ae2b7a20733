/-!
# Interactions

A computation that asks questions one after another, goes on with each answer, and ends with a
value.  Who answers is left open: the same interaction is run against a scripted daemon, against
a network, or step by step among other interactions.  Every interaction ends.
-/

namespace TorrentRemote

/-- A computation that asks questions; the type of an answer depends on its question. -/
inductive Interaction (Question : Type) (Answer : Question → Type) (α : Type) where
  | done (value : α)
  | ask (question : Question) (next : Answer question → Interaction Question Answer α)

namespace Interaction

variable {Question : Type} {Answer : Question → Type} {α β : Type}

/-- One interaction after another. -/
def bind : Interaction Question Answer α → (α → Interaction Question Answer β) →
    Interaction Question Answer β
  | done value, next => next value
  | ask question rest, next => ask question fun answer => (rest answer).bind next

instance : Monad (Interaction Question Answer) where
  pure := done
  bind := bind

/-- One question, whose answer is the value. -/
def request (question : Question) : Interaction Question Answer (Answer question) :=
  ask question done

/-- The value of an interaction whose questions are answered in a monad. -/
def run {m : Type → Type} [Monad m] (answer : (question : Question) → m (Answer question)) :
    Interaction Question Answer α → m α
  | done value => pure value
  | ask question next => do
    let reply ← answer question
    (next reply).run answer

/-- A question that has not been answered, and how the interaction goes on. -/
structure Suspended (Question : Type) (Answer : Question → Type) (α : Type) where
  question : Question
  next : Answer question → Interaction Question Answer α

/-- Runs an interaction up to its end or to the first question of a kind. -/
def runUntil {m : Type → Type} [Monad m] (isLast : Question → Bool)
    (answer : (question : Question) → m (Answer question)) :
    Interaction Question Answer α → m (α ⊕ Suspended Question Answer α)
  | done value => pure (.inl value)
  | ask question next => do
    if isLast question then pure (.inr ⟨question, next⟩)
    else
      let reply ← answer question
      (next reply).runUntil isLast answer

end Interaction

end TorrentRemote
