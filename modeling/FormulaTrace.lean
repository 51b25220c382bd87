import FormulaTrace.Main
import FormulaTrace.Service
import FormulaTrace.Lineage.Diagram
import FormulaTrace.Trace.Script
import FormulaTrace.Proofs.Address.Coordinate
import FormulaTrace.Proofs.Text.Blank
import FormulaTrace.Proofs.Address.Token
import FormulaTrace.Proofs.Formula.Grammar
import FormulaTrace.Proofs.Formula.Literal
import FormulaTrace.Proofs.Formula.Mention
import FormulaTrace.Proofs.Formula.Exactness
import FormulaTrace.Proofs.Address.Qualified
import FormulaTrace.Proofs.Address.Lists
import FormulaTrace.Proofs.Formula.Areas
import FormulaTrace.Proofs.Trace.Agreement
import FormulaTrace.Proofs.Trace.Beside
import FormulaTrace.Proofs.Trace.Circularity
import FormulaTrace.Proofs.Trace.IndexedDependents
import FormulaTrace.Proofs.Trace.IndexedPrecedents
import FormulaTrace.Proofs.Trace.Reachability
import FormulaTrace.Proofs.Trace.ScannedDependents
import FormulaTrace.Proofs.Workbook.Questions
import FormulaTrace.Proofs.Workbook.Widening
import FormulaTrace.Proofs.Workbook.Titles
import FormulaTrace.Proofs.Workbook.Selection
import FormulaTrace.Proofs.Workbook.Budget
import FormulaTrace.Proofs.Formula.Printed
import FormulaTrace.Proofs.Formula.Hidden
import FormulaTrace.Proofs.Formula.Opacity
import FormulaTrace.Proofs.Formula.Calls
import FormulaTrace.Proofs.Formula.Extraction
import FormulaTrace.Proofs.Trace.Relations
import FormulaTrace.Proofs.Trace.Failures
import FormulaTrace.Proofs.Trace.Cancellation
import FormulaTrace.Proofs.Display.Largest
import FormulaTrace.Proofs.Trace.Reports
import FormulaTrace.Proofs.Trace.Beforehand
import FormulaTrace.Proofs.Trace.Bounds
import FormulaTrace.Proofs.Trace.CallLog
import FormulaTrace.Proofs.Trace.Accounting
import FormulaTrace.Proofs.Lineage.Diagram
import FormulaTrace.Proofs.Trace.Diagrams
import FormulaTrace.Proofs.Address.RoundTrip
import FormulaTrace.Proofs.Address.Joined
import FormulaTrace.Proofs.Workbook.Expansion
import FormulaTrace.Proofs.Workbook.Coverage
import FormulaTrace.Proofs.Workbook.Anchors
import FormulaTrace.Proofs.Trace.Adjoint
import FormulaTrace.Proofs.Trace.Siblings
import FormulaTrace.Proofs.Address.Totals
import FormulaTrace.Proofs.Lineage.Lines
import FormulaTrace.Proofs.Number.Reading
import FormulaTrace.Proofs.Number.Rounding
import FormulaTrace.Proofs.Display.General
import FormulaTrace.Proofs.Display.Currency
import FormulaTrace.Proofs.Address.Enumeration
import FormulaTrace.Proofs.Address.Spelling
import FormulaTrace.Proofs.Workbook.Indexing
