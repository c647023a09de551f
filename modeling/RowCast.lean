import RowCast.Conversion.Converter
import RowCast.Json.Reader
import RowCast.Proofs.Accounting
import RowCast.Proofs.Agreement
import RowCast.Proofs.DecimalColumns
import RowCast.Proofs.Defaults
import RowCast.Proofs.Delivery
import RowCast.Proofs.Fallback
import RowCast.Proofs.FieldScope
import RowCast.Proofs.Filling
import RowCast.Proofs.Isolation
import RowCast.Proofs.Lossless
import RowCast.Proofs.Materialization
import RowCast.Proofs.Moves
import RowCast.Proofs.RecordObjects
import RowCast.Proofs.Releases
import RowCast.Proofs.SchemaReports
import RowCast.Proofs.SettingsEntries
import RowCast.Proofs.Statistics
import RowCast.Proofs.StoredSchemas
import RowCast.Serial.Schema
import RowCast.Proofs.IntegerLiterals
import RowCast.Proofs.IntegerCells
import RowCast.Proofs.IntegerColumns
import RowCast.Proofs.TemporalLiterals
import RowCast.Proofs.WrappedLiterals
import RowCast.Proofs.CurrentTime
import RowCast.Proofs.HandleRequests
import RowCast.Proofs.NullIndicator
