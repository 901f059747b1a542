import OutlineLint.Main
import OutlineLint.Json.Reader
import OutlineLint.Proofs.Comparison.Violation
import OutlineLint.Proofs.Comparison.Neutrality
import OutlineLint.Proofs.Outline.Interior
import OutlineLint.Proofs.Lint.Gate
import OutlineLint.Proofs.Lint.Absence
import OutlineLint.Proofs.Lint.Shape
import OutlineLint.Proofs.Lint.Independence
import OutlineLint.Proofs.Lint.Strictness
import OutlineLint.Proofs.Catalog.Selection
import OutlineLint.Proofs.Catalog.Violations
import OutlineLint.Proofs.Catalog.WellFormed
import OutlineLint.Proofs.CommandLine.Agreement
import OutlineLint.Proofs.Report.Workflow
import OutlineLint.Proofs.Outline.Headings
import OutlineLint.Proofs.Check.Satisfiability
import OutlineLint.Proofs.Lint.Discovery
import OutlineLint.Proofs.Lint.RowOrder
import OutlineLint.Proofs.Report.RoundTrip
import OutlineLint.Proofs.FileTree.Display
import OutlineLint.Proofs.Comparison.Distinct
import OutlineLint.Proofs.Comparison.Content
import OutlineLint.Proofs.Outline.Dangling
import OutlineLint.Proofs.Outline.Composition
import OutlineLint.Proofs.Check.Canonical
import OutlineLint.Proofs.Check.LineEndings
import OutlineLint.Proofs.Path.Relative
import OutlineLint.Proofs.Check.Reference
import OutlineLint.Proofs.Check.Skeleton
import OutlineLint.Proofs.Path.Canonical
import OutlineLint.Proofs.Outline.Bounds
