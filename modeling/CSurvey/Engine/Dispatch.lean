import CSurvey.Engine.Basic
import CSurvey.Wire.Operation

/-!
# Dispatch

Requests by name, with parameters and answers in JSON.  A call that names no
operation, or whose parameters cannot be read, is recorded too.
-/

namespace CSurvey.Engine

def reject (history : History) (time name : String) (fault : Fault) :
    Except Fault Json × History :=
  (.error fault, history.record time name (failureLine fault))

/-- The parameters of a call; none are given by `null`. -/
def parameters : Json → Json
  | .null => .obj []
  | value => value

def dispatch (engine : Engine) (disk : Disk) (history : History) (time name : String)
    (params : Json) : Except Fault Json × History :=
  match Operation.parse name with
  | .error fault => reject history time name fault
  | .ok operation =>
    match Request.ofJson? operation (parameters params) with
    | none =>
      let reason := engine.libraries.reason operation (parameters params)
      reject history time operation.name (.argument (.invalidParameters operation.name reason))
    | some request =>
      let (outcome, history) := engine.perform disk history time request
      (outcome.map Response.answer, history)

end CSurvey.Engine
