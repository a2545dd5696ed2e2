import DirectionField.Algebra.Builders
import DirectionField.Algebra.Computation
import DirectionField.Algebra.Estimate
import DirectionField.Algebra.Exponential
import DirectionField.Algebra.Expr
import DirectionField.Algebra.Facts
import DirectionField.Algebra.Integral
import DirectionField.Algebra.Magnitude
import DirectionField.Algebra.Number
import DirectionField.Algebra.Power
import DirectionField.Algebra.Product
import DirectionField.Algebra.Rounded
import DirectionField.Algebra.Simplify
import DirectionField.Algebra.Sum
import DirectionField.Algebra.Trigonometry
import DirectionField.Arithmetic
import DirectionField.Arrows
import DirectionField.Compile
import DirectionField.Curve
import DirectionField.Datum
import DirectionField.Decimal
import DirectionField.Defaults
import DirectionField.Effect
import DirectionField.EighthOrder
import DirectionField.Equation
import DirectionField.Fault
import DirectionField.Field
import DirectionField.Figure
import DirectionField.Formula.Compile
import DirectionField.Formula.Meaning
import DirectionField.Formula.Token
import DirectionField.Formula.Tree
import DirectionField.Grid
import DirectionField.Journal
import DirectionField.Numeric.Complex
import DirectionField.Numeric.Gamma
import DirectionField.Numeric.Number
import DirectionField.Numeric.Program
import DirectionField.Pick
import DirectionField.Proofs.Acceptance
import DirectionField.Proofs.ArrowGeometry
import DirectionField.Proofs.CheckedSettings
import DirectionField.Proofs.CompileFaults
import DirectionField.Proofs.CoordinateChange
import DirectionField.Proofs.CubicSlopes
import DirectionField.Proofs.CurveShapes
import DirectionField.Proofs.CurveSplice
import DirectionField.Proofs.CurveStore
import DirectionField.Proofs.DerivedSettings
import DirectionField.Proofs.Doubles
import DirectionField.Proofs.EquationTexts
import DirectionField.Proofs.ExtendedRational
import DirectionField.Proofs.FieldCoherence
import DirectionField.Proofs.FieldOperations
import DirectionField.Proofs.FigurePicks
import DirectionField.Proofs.FinitePoints
import DirectionField.Proofs.FlatField
import DirectionField.Proofs.GridSamples
import DirectionField.Proofs.IntervalCoverage
import DirectionField.Proofs.IntervalRuns
import DirectionField.Proofs.Markers
import DirectionField.Proofs.Orbit
import DirectionField.Proofs.PlainOperators
import DirectionField.Proofs.Rational
import DirectionField.Proofs.RealSlopes
import DirectionField.Proofs.RectangleRuns
import DirectionField.Proofs.ReferenceCoverage
import DirectionField.Proofs.RejectedNames
import DirectionField.Proofs.ResumedRuns
import DirectionField.Proofs.RunAgreement
import DirectionField.Proofs.RunExtent
import DirectionField.Proofs.Samples
import DirectionField.Proofs.SlopeBounds
import DirectionField.Proofs.SolverEcho
import DirectionField.Proofs.SolverFaults
import DirectionField.Proofs.SolverHistory
import DirectionField.Proofs.SolverOperations
import DirectionField.Proofs.Spellings
import DirectionField.Proofs.StepOrder
import DirectionField.Proofs.StoredSolutions
import DirectionField.Proofs.TotalSlopes
import DirectionField.Reference
import DirectionField.RungeKutta
import DirectionField.Settings
import DirectionField.Slope
import DirectionField.Solver
import DirectionField.Stage
import DirectionField.Symbol
import DirectionField.Text.Blank
import DirectionField.Text.Compact
import DirectionField.Text.Printable
import DirectionField.Text.Quoted
import DirectionField.Text.Word
import DirectionField.Trajectory
