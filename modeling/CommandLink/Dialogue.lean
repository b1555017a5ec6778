/-!
# Dialogues

A dialogue is a program that asks questions and goes on with their answers. Which questions there
are, and what answers them, is up to whoever holds the dialogue: it can be run in a monad
(`Dialogue.runM`) or turned into a dialogue over other questions (`Dialogue.interpret`).
-/

namespace CommandLink

/-- A program over questions `Q`, where an answer to `q` is an `A q`, that ends with an `α`. -/
inductive Dialogue (Q : Type) (A : Q → Type) (α : Type) where
  | done (result : α)
  | ask (question : Q) (next : A question → Dialogue Q A α)

namespace Dialogue

variable {Q Q' : Type} {A : Q → Type} {A' : Q' → Type} {α β : Type}

/-- Goes on with the result. -/
def bind (d : Dialogue Q A α) (next : α → Dialogue Q A β) : Dialogue Q A β :=
  match d with
  | .done result => next result
  | .ask q f => .ask q fun a => (f a).bind next

instance : Monad (Dialogue Q A) where
  pure := .done
  bind := bind

/-- Asks one question. -/
def question (q : Q) : Dialogue Q A (A q) := .ask q .done

@[simp]
theorem pure_eq (a : α) : (pure a : Dialogue Q A α) = .done a := rfl

@[simp]
theorem done_bind (a : α) (next : α → Dialogue Q A β) : (Dialogue.done a >>= next) = next a := rfl

@[simp]
theorem ask_bind (q : Q) (f : A q → Dialogue Q A α) (next : α → Dialogue Q A β) :
    (Dialogue.ask q f >>= next) = .ask q fun a => f a >>= next := rfl

@[simp]
theorem question_bind (q : Q) (next : A q → Dialogue Q A β) :
    (question q >>= next) = .ask q next := rfl

theorem bind_done (d : Dialogue Q A α) : d.bind .done = d := by
  induction d with
  | done a => rfl
  | ask q f ih => simp only [bind, ih]

theorem bind_assoc {γ : Type} (d : Dialogue Q A α) (f : α → Dialogue Q A β)
    (g : β → Dialogue Q A γ) : (d.bind f).bind g = d.bind fun a => (f a).bind g := by
  induction d with
  | done a => rfl
  | ask q k ih => simp only [bind, ih]

/-- Answers every question by a dialogue over other questions. -/
def interpret (answer : (q : Q) → Dialogue Q' A' (A q)) : Dialogue Q A α → Dialogue Q' A' α
  | .done result => .done result
  | .ask q f => (answer q).bind fun a => (f a).interpret answer

/-- Answers every question in a monad. -/
def runM {m : Type → Type} [Monad m] (answer : (q : Q) → m (A q)) : Dialogue Q A α → m α
  | .done result => pure result
  | .ask q f => do (f (← answer q)).runM answer

end Dialogue

end CommandLink
