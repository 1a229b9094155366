import Cyclometry.Grammar.OperatorName
import Cyclometry.Language
import Cyclometry.LineMap.Basic
import Cyclometry.Text.Quoted
import Cyclometry.Number.Notation
import Cyclometry.Value
import Cyclometry.Json.Read
import Cyclometry.Template.Basic
import Cyclometry.Walk
import Cyclometry.Report
import Cyclometry.Summary
import Cyclometry.Grammar.Function
import Cyclometry.Compiler.Cursor
import Cyclometry.Yaml.Scalar
import Cyclometry.Yaml.Token
import Cyclometry.Yaml.Document
import Cyclometry.Yaml.Read
import Cyclometry.Settings
import Cyclometry.Analysis
import Cyclometry.Units
import Cyclometry.Program
import Cyclometry.Snapshot
import Cyclometry.Main
import Cyclometry.Proofs.TemplateText
import Cyclometry.Proofs.Traversal
import Cyclometry.Proofs.Visit
import Cyclometry.Proofs.WalkOutcome
import Cyclometry.Proofs.ResultChannels
import Cyclometry.Proofs.ForwardReading
import Cyclometry.Proofs.RecordedFunctions
import Cyclometry.Proofs.MarkerGrammar
import Cyclometry.Proofs.CleanedBuffer
import Cyclometry.Proofs.FunctionNames
import Cyclometry.Proofs.ReportRoundTrip
import Cyclometry.Proofs.FileContents
import Cyclometry.Proofs.UnitCourse
import Cyclometry.Proofs.IndependentUnits
import Cyclometry.Proofs.ReportFiles
import Cyclometry.Proofs.RecordHistory
import Cyclometry.Proofs.DiagnosticsSession
import Cyclometry.Proofs.StoppingUnits
import Cyclometry.Proofs.DistinctKeys
import Cyclometry.Proofs.KeyIdentity
import Cyclometry.Proofs.MergedFields
import Cyclometry.Proofs.RequestOptions
import Cyclometry.Proofs.LoadedSettings
import Cyclometry.Proofs.JsonTokens
import Cyclometry.Proofs.JsonRoundTrip
import Cyclometry.Proofs.SummaryRoundTrip
import Cyclometry.Proofs.SummaryAgreement
import Cyclometry.Proofs.LayeredSettings
import Cyclometry.Proofs.GraphicModes
import Cyclometry.Proofs.Presentation
import Cyclometry.Proofs.CursorKinds
import Cyclometry.Proofs.EarlyFaults
import Cyclometry.Proofs.DeclaratorNames
import Cyclometry.Proofs.Prototypes
import Cyclometry.Proofs.MissingNodes
import Cyclometry.Proofs.DecimalDigits
import Cyclometry.Proofs.Utf8RoundTrip
import Cyclometry.Proofs.MarkerSegments
import Cyclometry.Proofs.WrittenMarkers
import Cyclometry.Proofs.PathTexts
import Cyclometry.Proofs.NormalPaths
import Cyclometry.Proofs.SystemPaths
import Cyclometry.Proofs.DirectoryTrees
import Cyclometry.Proofs.UnitDiscovery
import Cyclometry.Proofs.ResolvedPaths
import Cyclometry.Proofs.NearestConfig
import Cyclometry.Proofs.DecisionCounts
import Cyclometry.Proofs.StemTemplates
import Cyclometry.Proofs.OperatorSpellings
