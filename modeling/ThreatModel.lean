import ThreatModel.Main
import ThreatModel.Document.KeyRecord
import ThreatModel.Unicode.Script
import ThreatModel.Proofs.Reference.Resolution
import ThreatModel.Proofs.Reference.Row
import ThreatModel.Proofs.Verification.Repetition
import ThreatModel.Proofs.Verification.Independence
import ThreatModel.Proofs.Rows.Inheritance
import ThreatModel.Proofs.Rule.Coverage
import ThreatModel.Proofs.Verification.Agreement
import ThreatModel.Proofs.Scheme.Strict
import ThreatModel.Proofs.Document.Ancestry
import ThreatModel.Proofs.Rule.ValueClasses
import ThreatModel.Proofs.Scheme.Provenance
import ThreatModel.Proofs.Scheme.Shape
import ThreatModel.Proofs.Scheme.Absence
import ThreatModel.Proofs.Scheme.RoundTrip
import ThreatModel.Proofs.Verification.Strict
import ThreatModel.Proofs.Document.Content
import ThreatModel.Proofs.Reference.ColumnOrder
import ThreatModel.Proofs.Rule.Unresolved
import ThreatModel.Proofs.Rule.Approval
import ThreatModel.Proofs.Rule.Selection
import ThreatModel.Proofs.Rule.NamedCoverage
import ThreatModel.Proofs.Rule.GroupPhrases
import ThreatModel.Proofs.Document.TagSearch
import ThreatModel.Proofs.Document.DefaultTags
import ThreatModel.Proofs.Scheme.CarryDown
import ThreatModel.Proofs.Scheme.DeclaredKeys
import ThreatModel.Proofs.Scheme.HeaderRow
import ThreatModel.Proofs.Rule.ValueVerdicts
import ThreatModel.Proofs.Wording.Rescanning
import ThreatModel.Proofs.Issue
import ThreatModel.Proofs.Reference.Grammar
import ThreatModel.Proofs.Reference.Existence
import ThreatModel.Proofs.Scheme.TableHeader
import ThreatModel.Proofs.Scheme.Splitting
import ThreatModel.Proofs.Reference.CanonicalForm
import ThreatModel.Proofs.Reference.Ending
import ThreatModel.Proofs.Pattern.Reuse
import ThreatModel.Proofs.Scheme.DistinctNames
