import LinProg.Grid
import LinProg.CommandLine.Options
import LinProg.Figure
import LinProg.Json.Reader
import LinProg.Report.Outcome
import LinProg.Simplex.Step
import LinProg.Sheet
import LinProg.Text.Utf8

set_option autoImplicit false

namespace LinProg

inductive Failure where
  | number (cause : NumberError)
  | model (cause : ModelError)
  | grid (cause : GridError)
  | tableau (cause : TableauError)
  | sheet (cause : SheetError)
  | solve (cause : SolveError)
  | vocabulary (cause : VocabularyError)
  | line (cause : Plane.LineError)
  | figure (cause : FigureError)
  | report (cause : Report.ReportError)
  | denominator (cause : Report.DenominatorError)
  | reading (cause : Json.ReadError)
  | bytes (cause : Text.Utf8Error)
  | path (cause : CommandLine.PathError)

namespace Failure

def message : Failure → Text
  | .number cause => cause.message
  | .model cause => cause.message
  | .grid cause => cause.message
  | .tableau cause => cause.message
  | .sheet cause => cause.message
  | .solve cause => cause.message
  | .vocabulary cause => cause.message
  | .line cause => cause.message
  | .figure cause => cause.message
  | .report cause => cause.message
  | .denominator cause => cause.message
  | .reading cause => cause.message
  | .bytes cause => cause.message
  | .path cause => cause.message

def kind : Failure → FailureKind
  | .number cause => cause.failureKind
  | .model cause => cause.failureKind
  | .grid cause => cause.failureKind
  | .tableau cause => cause.failureKind
  | .sheet cause => cause.failureKind
  | .solve cause => cause.failureKind
  | .vocabulary cause => cause.failureKind
  | .line cause => cause.failureKind
  | .figure cause => cause.failureKind
  | .report cause => cause.failureKind
  | .denominator cause => cause.failureKind
  | .reading _ => .badValue
  | .bytes _ => .undecodable
  | .path cause => cause.failureKind

end Failure

instance : MonadLift (Except NumberError) (Except Failure) := ⟨Except.mapError .number⟩
instance : MonadLift (Except ModelError) (Except Failure) := ⟨Except.mapError .model⟩
instance : MonadLift (Except GridError) (Except Failure) := ⟨Except.mapError .grid⟩
instance : MonadLift (Except SlackClash) (Except Failure) := ⟨Except.mapError fun cause => .solve (.clash cause)⟩
instance : MonadLift (Except TableauError) (Except Failure) := ⟨Except.mapError .tableau⟩
instance : MonadLift (Except SheetError) (Except Failure) := ⟨Except.mapError .sheet⟩
instance : MonadLift (Except SolveError) (Except Failure) := ⟨Except.mapError .solve⟩
instance : MonadLift (Except VocabularyError) (Except Failure) := ⟨Except.mapError .vocabulary⟩
instance : MonadLift (Except Plane.LineError) (Except Failure) := ⟨Except.mapError .line⟩
instance : MonadLift (Except FigureError) (Except Failure) := ⟨Except.mapError .figure⟩
instance : MonadLift (Except Report.ReportError) (Except Failure) := ⟨Except.mapError .report⟩
instance : MonadLift (Except Report.DenominatorError) (Except Failure) := ⟨Except.mapError .denominator⟩
instance : MonadLift (Except Text.Utf8Error) (Except Failure) := ⟨Except.mapError .bytes⟩

end LinProg
