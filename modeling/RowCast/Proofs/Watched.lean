import RowCast.Source.Lifting

/-!
# Watched sources

A data source that keeps a list of what is done with its handles. It numbers the handles as it
hands them out, and notes each call on one of them with what it answered, as far as a reader of the
list needs that. Otherwise it behaves as the source that is watched.
-/

namespace RowCast

/-- A source together with what was done with its handles. -/
structure Watched (σ : Type) where
  source : σ
  /-- The number of handles handed out; they are numbered from zero on. -/
  opened : Nat
  /-- The calls on handles as they were made, each with the number of its handle. -/
  calls : List (Nat × HandleCall)

namespace Watched

variable {σ η κ α β χ ξ : Type}

/-- A source of which no handle was handed out yet. -/
def start (source : σ) : Watched σ :=
  ⟨source, 0, []⟩

/-- The calls on the handle of a number, in order. -/
def callsOf (w : Watched σ) (number : Nat) : List HandleCall :=
  (w.calls.filter fun call => call.1 = number).map (·.2)

/-- Perform a step that concerns no handle. -/
def plain (step : Step σ α) : Step (Watched σ) α := fun w =>
  let (answer, source) := step w.source
  (answer, { w with source })

/-- Open a handle, which gets the next number. -/
def opening (step : Step σ (Option η)) : Step (Watched σ) (Option (Nat × η)) := fun w =>
  match step w.source with
  | (.ok (some handle), source) =>
    (.ok (some (w.opened, handle)), { w with source, opened := w.opened + 1 })
  | (.ok none, source) => (.ok none, { w with source })
  | (.error e, source) => (.error e, { w with source })

/-- Perform a call on a handle and note it. -/
def calling (call : Except Error α → HandleCall) (step : Step (η × σ) α) :
    Step ((Nat × η) × Watched σ) α := fun ((number, handle), w) =>
  let (answer, handle, source) := step (handle, w.source)
  (answer, (number, handle), { w with source, calls := w.calls ++ [(number, call answer)] })

/-- Every call is that of the source; handles are numbered, and the calls on them noted. -/
def lifting : Lifting σ (Watched σ) (Nat × ·) where
  plain _ _ step := plain step
  opening _ _ step := opening step
  calling _ note step := calling note step
  asking ask w := ((ask w.source).1, { w with source := (ask w.source).2 })

/-- A row whose handles are watched. -/
def rowSource (r : RowSource σ β χ ξ) : RowSource (Watched σ) (Nat × β) (Nat × χ) (Nat × ξ) :=
  lifting.rowSource r

/-- A cursor over rows whose handles are watched. -/
def cursor (c : Cursor σ β χ ξ) : Cursor (Watched σ) (Nat × β) (Nat × χ) (Nat × ξ) :=
  lifting.cursor c

end Watched

end RowCast
