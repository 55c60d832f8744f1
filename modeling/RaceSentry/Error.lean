import RaceSentry.Access
import RaceSentry.Denial

/-!
# Failures

A race is no failure: it is recorded on the value. What goes wrong is either the detector's own
plumbing, when it records a race or starts a monitored thread, or the work of a thread, which is
then cut short.
-/

namespace RaceSentry

/-- Why the plumbing failed. -/
inductive DetectorError where
  /-- The report queue had no room. -/
  | captureFull (capacity : Nat)
  /-- Nobody is left to take reports. -/
  | captureDisconnected
  /-- The system refused to start a thread, for the reason given. -/
  | spawn (reason : String)
  deriving DecidableEq, Repr

namespace DetectorError

/-- The failure in words. -/
def message : DetectorError → String
  | .captureFull capacity =>
    "race report buffer is full (capacity " ++ toString capacity ++ ")"
  | .captureDisconnected => "race report channel is disconnected"
  | .spawn reason => "failed to spawn monitored thread: " ++ reason

/-- The failure underneath, where there is one. -/
def source? : DetectorError → Option String
  | .spawn reason => some reason
  | _ => none

end DetectorError

/-- Why a thread's work is cut short. -/
inductive Fault where
  /-- It used a value from inside its own closure on that value. -/
  | reentered (value : ValueId)
  /-- It asked for something that is being worked on and has no better answer. -/
  | borrowed
  /-- It was to judge an access and had no snapshot of the value. -/
  | snapshotMissing (value : ValueId) (key : AccessKey)
  /-- It gave up with a text of its own. -/
  | raised (text : String)
  /-- It asked for something that cannot be had. -/
  | denied (reason : Denial)
  deriving DecidableEq, Repr

namespace Fault

/-- The fault in words; a refused borrow has none of its own. -/
def message? : Fault → Option String
  | .reentered value =>
    some ("monitored value " ++ value.text ++
      " accessed again from inside its own read_with/update closure; " ++
      "copy what you need out of the closure first")
  | .borrowed => none
  | .snapshotMissing value key =>
    some ("clockwatch invariant violated: no snapshot of value " ++ value.text ++ " for " ++
      key.text)
  | .raised text => some text
  | .denied reason => some reason.message

end Fault

end RaceSentry
