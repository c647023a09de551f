import RowCast.Error
import RowCast.Source.Step

/-!
# Events

What conversions report besides their answers, and computations that report such events.
-/

namespace RowCast

/-- How serious an event is. -/
inductive Severity where
  | warn
  | debug
  deriving DecidableEq, Repr

/-- Something that happened during a conversion. -/
inductive Event where
  /-- A column was left out of a schema because its type has no counterpart. -/
  | unsupportedColumn (column : String) (columnType : ColumnType)
  /-- A field goes without a default because its default is no literal of its type. -/
  | droppedDefault (table column : String) (cause : Error)
  /-- A schema was built. -/
  | builtSchema (table : String) (fields dropped : Nat)
  /-- A column was passed over because its type or name could not be read. -/
  | unreadableColumn (index : Nat) (cause : Error)
  /-- A value was not stored because its field does not accept it. -/
  | rejectedValue (field : String) (cause : Error)
  /-- A value was not stored because it could not be read. -/
  | failedExtraction (field : String) (columnType : ColumnType) (cause : Error)
  /-- A handle of a large object could not be released. -/
  | failedRelease (cause : Error)
  deriving DecidableEq

namespace Event

/-- Losses are warnings; the rest is for diagnosis. -/
def severity : Event → Severity
  | builtSchema .. | failedRelease _ => .debug
  | _ => .warn

/-- The message of an event. -/
def message : Event → String
  | unsupportedColumn _ columnType =>
    "Column type " ++ columnType.display ++ " not currently supported, dropping column"
  | droppedDefault .. => "Dropping unparseable default"
  | builtSchema .. => "Built record schema"
  | unreadableColumn .. => "Ignoring column with unreadable metadata"
  | rejectedValue .. => "Ignoring value rejected by schema"
  | failedExtraction .. => "Ignoring field because extraction failed"
  | failedRelease cause => "Releasing large object handle failed: " ++ cause.message

/-- The particulars of an event, by name. -/
def particulars : Event → List (String × String)
  | unsupportedColumn column columnType =>
    [("column", column), ("sql_type", String.ofList (Text.intText columnType.code.toInt))]
  | droppedDefault table column cause =>
    [("table", table), ("column", column), ("error", cause.message)]
  | builtSchema table fields dropped =>
    [("table", table), ("fields", String.ofList (Text.natText fields)),
      ("dropped", String.ofList (Text.natText dropped))]
  | unreadableColumn index cause =>
    [("column", String.ofList (Text.natText index)), ("error", cause.message)]
  | rejectedValue field cause => [("field", field), ("error", cause.message)]
  | failedExtraction field columnType cause =>
    [("field", field), ("sql_type", columnType.display), ("error", cause.message)]
  | failedRelease _ => []

end Event

/-- A step that also reports events, in order. -/
def Traced (σ α : Type) : Type :=
  σ → Except Error α × List Event × σ

namespace Traced

variable {σ α β : Type}

/-- Answer without a look at the source, with nothing to report. -/
def pure (a : α) : Traced σ α :=
  fun s => (.ok a, [], s)

/-- Fail without a look at the source, with nothing to report. -/
def fail (e : Error) : Traced σ α :=
  fun s => (.error e, [], s)

/-- Report one event. -/
def report (event : Event) : Traced σ Unit :=
  fun s => (.ok (), [event], s)

/-- Perform a step that reports nothing. -/
def ofStep (x : Step σ α) : Traced σ α := fun s =>
  let (answer, s) := x s
  (answer, [], s)

/-- Continue with an answer; what either part reports stays reported, also after an error. -/
def bind (x : Traced σ α) (f : α → Traced σ β) : Traced σ β := fun s =>
  match x s with
  | (.ok a, log, s) =>
    let (answer, more, s) := f a s
    (answer, log ++ more, s)
  | (.error e, log, s) => (.error e, log, s)

instance : Monad (Traced σ) where
  pure := Traced.pure
  bind := Traced.bind

instance : MonadLift (Step σ) (Traced σ) where
  monadLift := Traced.ofStep

end Traced

end RowCast
