import LinProg.Main
import LinProg.Page
import LinProg.Problem.Writer
import LinProg.Report.Draft
import LinProg.Proofs.Feasible
import LinProg.Proofs.Names
import LinProg.Proofs.Outcome
import LinProg.Proofs.Pivot
import LinProg.Proofs.Rational
import LinProg.Proofs.Reached
import LinProg.Proofs.Start
import LinProg.Proofs.Basis
import LinProg.Proofs.Choice
import LinProg.Proofs.Rewriting
import LinProg.Proofs.Run
import LinProg.Proofs.Solve
import LinProg.Proofs.Points
import LinProg.Proofs.Values
import LinProg.Proofs.BasicPoint
import LinProg.Proofs.Optimality
import LinProg.Proofs.Unboundedness
import LinProg.Proofs.Bookkeeping
import LinProg.Proofs.Cycle
import LinProg.Proofs.Analysis
import LinProg.Proofs.ShadowPrice
import LinProg.Proofs.Ranging
import LinProg.Proofs.Certificate
import LinProg.Proofs.Corners
import LinProg.Proofs.Merging
import LinProg.Proofs.Planar
import LinProg.Proofs.Region
import LinProg.Proofs.Agreement
import LinProg.Proofs.Determined
import LinProg.Proofs.Extension
import LinProg.Proofs.OpenRegion
import LinProg.Proofs.Alternates
import LinProg.Proofs.Edge
import LinProg.Proofs.Faults
import LinProg.Proofs.Mirror
import LinProg.Proofs.Shown
import LinProg.Proofs.Reading
import LinProg.Proofs.Unreported
import LinProg.Proofs.Acceptance
import LinProg.Proofs.RoundTrip
import LinProg.Proofs.Carried
import LinProg.Proofs.Scaling
import LinProg.Proofs.Renaming
import LinProg.Proofs.Effects
import LinProg.Proofs.Loading
import LinProg.Proofs.Printout
import LinProg.Proofs.Ending
import LinProg.Proofs.Display
import LinProg.Proofs.Arguments
import LinProg.Proofs.Bytes
import LinProg.Proofs.FrontEnds
import LinProg.Proofs.Extent
import LinProg.Proofs.Repetition
import LinProg.Proofs.FirstSeen
import LinProg.Proofs.Splitting
import LinProg.Proofs.Angles
import LinProg.Proofs.Convexity
import LinProg.Proofs.Outline
import LinProg.Proofs.BestFraction
import LinProg.Proofs.Significant
import LinProg.Proofs.Readable
import LinProg.Proofs.NumberText
import LinProg.Proofs.Selection
import LinProg.Proofs.Stopping
import LinProg.Proofs.Drawing
import LinProg.Proofs.Characters
import LinProg.Proofs.Gridlines
import LinProg.Proofs.Alignment
