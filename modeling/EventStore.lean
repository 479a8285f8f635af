import EventStore.Main
import EventStore.Proofs.SelectorValidity
import EventStore.Proofs.SelectorText
import EventStore.Proofs.LikePatterns
import EventStore.Proofs.TypeDerivation
import EventStore.Proofs.SelectionCondition
import EventStore.Proofs.RecordEncoding
import EventStore.Proofs.MemorySteps
import EventStore.Proofs.TableRows
import EventStore.Proofs.TableReads
import EventStore.Proofs.DriverAgreement
import EventStore.Proofs.CalendarDates
import EventStore.Proofs.DigitRuns
import EventStore.Proofs.TimestampText
import EventStore.Proofs.UuidText
import EventStore.Proofs.JsonNumbers
import EventStore.Proofs.JsonStrings
import EventStore.Proofs.JsonText
import EventStore.Proofs.JsonFidelity
import EventStore.Proofs.RecordDecoding
import EventStore.Proofs.SelectorAdmission
import EventStore.Proofs.MemoryHistory
import EventStore.Proofs.SelectorContainment
import EventStore.Proofs.MemoryConsistency
import EventStore.Proofs.AppendRouting
import EventStore.Proofs.BundleDelivery
import EventStore.Proofs.PoolReads
import EventStore.Proofs.FanOut
import EventStore.Proofs.CursorWalk
import EventStore.Proofs.RecordRoundTrip
import EventStore.Proofs.RoundingBounds
import EventStore.Proofs.ShortestDecimals
import EventStore.Proofs.DecimalScaling
import EventStore.Proofs.DecimalReading
import EventStore.Proofs.ReadableHistory
import EventStore.Proofs.Registrations
import EventStore.Proofs.TypeOrder
import EventStore.Proofs.ByteOrder
import EventStore.Proofs.TypeFamilies
import EventStore.Proofs.TypeGrowth
import EventStore.Proofs.SelectorEditing
import EventStore.Proofs.SelectorFaults
import EventStore.Proofs.CursorDrain
import EventStore.Proofs.TableAppends
import EventStore.Proofs.DirectoryPlaces
import EventStore.Proofs.DatabaseOpening
import EventStore.Proofs.PoolOpening
import EventStore.Proofs.DatabaseDelivery
import EventStore.Proofs.SharedDatabases
import EventStore.Proofs.SelectorResolution
import EventStore.Proofs.SelectorOrder
import EventStore.Proofs.InterruptedFanOut
import EventStore.Proofs.StatementTokens
import EventStore.Proofs.StatementGrammar
import EventStore.Proofs.StatementReading
import EventStore.Proofs.LiteralPatterns
import EventStore.Proofs.StoreNames
import EventStore.Proofs.TimestampStability
import EventStore.Proofs.PoolEnrolment
import EventStore.Proofs.DocumentPaths
import EventStore.Proofs.DocumentOverlay
import EventStore.Proofs.LayerPrecedence
import EventStore.Proofs.LayerMerging
import EventStore.Proofs.VariableTrees
import EventStore.Proofs.SettingsReading
import EventStore.Proofs.SettingsLayers
