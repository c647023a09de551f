import RowCast.Source.Lifting
import RowCast.Source.Table

/-!
# Sources with faults

A data source whose calls are made to fail by a list of faults, for trying out how conversions cope.
A fault lets some calls pass and fails all later ones before they reach the source.
-/

namespace RowCast

/-- A call that fails from some time on. -/
structure Fault where
  call : Call
  /-- The column that the fault is confined to, if it is. -/
  index : Option Nat
  message : String
  /-- The number of calls that still pass. -/
  passes : Nat
  deriving DecidableEq

namespace Fault

/-- Whether a fault concerns a call on a column. -/
def concerns (fault : Fault) (call : Call) (index : Nat) : Bool :=
  fault.call == call && fault.index.all (· == index)

/--
Try the faults in order on a call: the first one that fires gives its message, and each one that
lets the call pass has one passage less.
-/
def fire (call : Call) (index : Nat) : List Fault → Option String × List Fault
  | [] => (none, [])
  | fault :: rest =>
    if fault.concerns call index then
      if fault.passes = 0 then (some fault.message, fault :: rest)
      else
        let (message, rest) := fire call index rest
        (message, { fault with passes := fault.passes - 1 } :: rest)
    else
      let (message, rest) := fire call index rest
      (message, fault :: rest)

end Fault

/-- A source together with its faults. -/
structure Faulty (σ : Type) where
  source : σ
  faults : List Fault
  /-- What the null indicator always says, if it does. -/
  wasNull : Option Bool
  deriving DecidableEq

namespace Faulty

variable {σ η α β χ ξ : Type}

/-- Perform a call on a column unless a fault fires. -/
def guarded (call : Call) (index : Nat) (step : Step σ α) : Step (Faulty σ) α := fun s =>
  match Fault.fire call index s.faults with
  | (some message, faults) => (.error (.driver message), { s with faults })
  | (none, faults) =>
    let (answer, source) := step s.source
    (answer, { s with source, faults })

/-- Open a handle, which remembers its column. -/
def opened (call : Call) (index : Nat) (step : Step σ (Option η)) :
    Step (Faulty σ) (Option (Nat × η)) :=
  guarded call index (step.map fun handle => handle.map (index, ·))

/-- Perform a call on a handle unless a fault of its column fires. -/
def guardedHandle (call : Call) (step : Step (η × σ) α) : Step ((Nat × η) × Faulty σ) α :=
  fun ((index, handle), s) =>
    match Fault.fire call index s.faults with
    | (some message, faults) => (.error (.driver message), (index, handle), { s with faults })
    | (none, faults) =>
      let (answer, handle, source) := step (handle, s.source)
      (answer, (index, handle), { s with source, faults })

/-- The null indicator, which may be stuck. -/
def stuckNull (ask : σ → Bool × σ) (s : Faulty σ) : Bool × Faulty σ :=
  match s.wasNull with
  | some stuck => (stuck, s)
  | none =>
    let (answer, source) := ask s.source
    (answer, { s with source })

/-- Every call may fail before it reaches the source. -/
def lifting : Lifting σ (Faulty σ) (Nat × ·) where
  plain := guarded
  opening := opened
  calling call _ step := guardedHandle call step
  asking := stuckNull

/-- Metadata whose lookups may fail. -/
def metadata (m : Metadata σ) : Metadata (Faulty σ) :=
  lifting.metadata m

/-- A row whose reads may fail. -/
def rowSource (r : RowSource σ β χ ξ) : RowSource (Faulty σ) (Nat × β) (Nat × χ) (Nat × ξ) :=
  lifting.rowSource r

/-- A cursor whose moves and reads may fail. -/
def cursor (c : Cursor σ β χ ξ) : Cursor (Faulty σ) (Nat × β) (Nat × χ) (Nat × ξ) :=
  lifting.cursor c

end Faulty

end RowCast
