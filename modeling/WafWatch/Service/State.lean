/-!
This module holds the states that every service of the daemon goes through.
-/

namespace WafWatch

/--
How far a service has come. A service that was stopped can run again.
-/
inductive RunState where
  | initialized
  | running
  | stopped
  deriving DecidableEq, Repr, Inhabited

namespace RunState

def name : RunState → String
  | .initialized => "initialized"
  | .running => "running"
  | .stopped => "stopped"

def complaint? : RunState → Option String
  | .initialized => some "not started"
  | .running => none
  | .stopped => some "stopped"

end RunState

end WafWatch
