import RowCast.Error

/-!
# Steps

Computations that read from a data source: each leaves the source in a new state, whether it
succeeds or fails.
-/

namespace RowCast

/-- A computation over sources in states of `σ`: an answer or an error, and the next state. -/
def Step (σ α : Type) : Type :=
  σ → Except Error α × σ

namespace Step

variable {σ α β : Type}

/-- Answer without a look at the source. -/
def pure (a : α) : Step σ α :=
  fun s => (.ok a, s)

/-- Fail without a look at the source. -/
def fail (e : Error) : Step σ α :=
  fun s => (.error e, s)

/-- Continue with an answer; an error ends the computation in the state it left. -/
def bind (x : Step σ α) (f : α → Step σ β) : Step σ β := fun s =>
  match x s with
  | (.ok a, s) => f a s
  | (.error e, s) => (.error e, s)

/-- Apply a function to the answer. -/
def map (f : α → β) (x : Step σ α) : Step σ β := fun s =>
  match x s with
  | (.ok a, s) => (.ok (f a), s)
  | (.error e, s) => (.error e, s)

instance : Monad (Step σ) where
  pure := Step.pure
  bind := Step.bind

end Step

end RowCast
