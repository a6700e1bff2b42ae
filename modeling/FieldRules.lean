import FieldRules.Main
import FieldRules.Float64
import FieldRules.Scan.BuildCheck
import FieldRules.Source.Expansion
import FieldRules.Validation.Session
import FieldRules.Value.ToValue
import FieldRules.Value.Equal
import FieldRules.Proofs.Annotation.Canonical
import FieldRules.Proofs.Annotation.Failures
import FieldRules.Proofs.Annotation.Composition
import FieldRules.Proofs.Annotation.Invocations
import FieldRules.Proofs.Text.Order
import FieldRules.Proofs.Validation.CleanAnnotations
import FieldRules.Proofs.Scan.DiagnosticOrder
import FieldRules.Proofs.Enumeration
import FieldRules.Proofs.Source.Places
import FieldRules.Proofs.Source.Conditions
import FieldRules.Proofs.Scan.Findings
import FieldRules.Proofs.Source.FieldPositions
import FieldRules.Proofs.Text.Quoting
import FieldRules.Proofs.Validation.CanonicalAnnotations
import FieldRules.Proofs.Scan.UnknownNames
import FieldRules.Proofs.Scan.FileSets
import FieldRules.Proofs.Validation.Visits
import FieldRules.Proofs.Validation.CallSites
import FieldRules.Proofs.Validation.Regrouping
import FieldRules.Proofs.Scan.DerivedRecords
import FieldRules.Proofs.Validation.Lineage
import FieldRules.Proofs.Validation.Formatters
import FieldRules.Proofs.Validation.SkippedNames
import FieldRules.Proofs.Validation.Bounds
import FieldRules.Proofs.Validation.Presence
import FieldRules.Proofs.Validation.Relabelling
import FieldRules.Proofs.Validation.NestedRecords
import FieldRules.Proofs.Text.Scanning
import FieldRules.Proofs.Text.Numerals
import FieldRules.Proofs.Text.NumeralFaults
import FieldRules.Proofs.Text.LineBreaks
import FieldRules.Proofs.Scan.Problems
import FieldRules.Proofs.Scan.ProblemLists
import FieldRules.Proofs.Scan.KnownNames
import FieldRules.Proofs.Scan.Limits
import FieldRules.Proofs.Scan.OutputLines
import FieldRules.Proofs.Scan.TestCode
import FieldRules.Proofs.Scan.KeptCode
import FieldRules.Proofs.Scan.JoinedPaths
import FieldRules.Proofs.Scan.PackageFiles
import FieldRules.Proofs.Scan.AddedFiles
import FieldRules.Proofs.Scan.PackageReports
import FieldRules.Proofs.Scan.Registrations
import FieldRules.Proofs.Source.Expansions
import FieldRules.Proofs.Scan.Verdicts
import FieldRules.Proofs.Json.RoundTrip
import FieldRules.Proofs.Scan.SavedReports
import FieldRules.Proofs.Annotation.Descent
import FieldRules.Proofs.Scan.Advice
import FieldRules.Proofs.Scan.PathSpellings
import FieldRules.Proofs.Scan.SortedDiagnostics
import FieldRules.Proofs.Validation.Paths
