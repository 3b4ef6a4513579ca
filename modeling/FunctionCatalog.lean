import FunctionCatalog.Assignment
import FunctionCatalog.Builder
import FunctionCatalog.Builtin.Catalog
import FunctionCatalog.Command.Session
import FunctionCatalog.Json.Printer
import FunctionCatalog.Json.Reader
import FunctionCatalog.Main
import FunctionCatalog.Membership
import FunctionCatalog.Schema
import FunctionCatalog.TextForm
import FunctionCatalog.Proofs.LayoutFaults
import FunctionCatalog.Proofs.BuilderHistory
import FunctionCatalog.Proofs.BuilderReach
import FunctionCatalog.Proofs.BuilderRepair
import FunctionCatalog.Proofs.RegistryLog
import FunctionCatalog.Proofs.RegistryOrder
import FunctionCatalog.Proofs.RegistryFreeze
import FunctionCatalog.Proofs.RecordReading
import FunctionCatalog.Proofs.DecimalReading
import FunctionCatalog.Proofs.NumberText
import FunctionCatalog.Proofs.StringText
import FunctionCatalog.Proofs.JsonText
import FunctionCatalog.Proofs.ArgumentRoundTrip
import FunctionCatalog.Proofs.CompoundText
import FunctionCatalog.Proofs.QuotedText
import FunctionCatalog.Proofs.TextForms
import FunctionCatalog.Proofs.RecordIdentity
import FunctionCatalog.Proofs.Arity
import FunctionCatalog.Proofs.BuilderTwins
import FunctionCatalog.Proofs.FaultReports
import FunctionCatalog.Proofs.ResultTypes
import FunctionCatalog.Proofs.EncodedParts
import FunctionCatalog.Proofs.NormalForm
import FunctionCatalog.Proofs.TypeNames
import FunctionCatalog.Proofs.Broadcasting
import FunctionCatalog.Proofs.DisplayLine
import FunctionCatalog.Proofs.Grouping
import FunctionCatalog.Proofs.Assignability
import FunctionCatalog.Proofs.ExactValue
import FunctionCatalog.Proofs.EncodingFailure
import FunctionCatalog.Proofs.NodeEquality
import FunctionCatalog.Proofs.MessageTemplates
import FunctionCatalog.Proofs.ArgumentNames
