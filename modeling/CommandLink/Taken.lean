/-!
# Reading from the front

What a reader takes from the front of an input: a value, and a rest that is shorter than the input,
so that reading on from the rest comes to an end.
-/

namespace CommandLink

/-- A value taken from the front of an input, and the rest of the input, which is shorter. -/
structure Taken (α : Type) {β : Type} (input : List β) where
  value : α
  rest : List β
  shorter : rest.length < input.length

namespace Taken

variable {α β γ : Type} {input : List γ}

/-- The same rest with another value. -/
def map (f : α → β) (t : Taken α input) : Taken β input := ⟨f t.value, t.rest, t.shorter⟩

/-- What was taken from an input's end was taken from the input. -/
def weaken {longer : List γ} (t : Taken α input) (h : input.length ≤ longer.length) :
    Taken α longer :=
  ⟨t.value, t.rest, Nat.lt_of_lt_of_le t.shorter h⟩

end Taken

end CommandLink
