import WafWatch.Host.Basic
import WafWatch.Service.Error
import WafWatch.Service.Health

/-!
This module contains the modules of a daemon: services under names that are started in order and stopped in
the opposite order. Starting ends at the first module that fails; stopping goes on to the last one.
-/

namespace WafWatch

/--
What can be started, stopped and asked for its health.
-/
class Service (σ : Type) where
  start : Host → σ → Except ServiceError Unit × σ
  stop : σ → Except ServiceError Unit × σ
  health : σ → Health
  /-- Tell whatever runs to end. -/
  cancel : σ → σ

/--
A module of a daemon. One that is not enabled is left alone.
-/
structure ServiceModule (σ : Type) where
  name : String
  enabled : Bool := true
  service : σ
  deriving Repr, Inhabited

/--
Why the modules of a daemon cannot be started or stopped.
-/
inductive ModuleError where
  | start (name : String) (error : ServiceError)
  /-- The modules that could not be stopped, in the order in which they were tried. -/
  | stop (failures : List (String × ServiceError))
  deriving DecidableEq, Repr, Inhabited

def ModuleError.message : ModuleError → String
  | .start name error => "failed to start module \x27" ++ name ++ "\x27: " ++ error.message
  | .stop failures =>
    let reasons := failures.map fun failure => failure.1 ++ ": " ++ failure.2.message
    "errors stopping modules: " ++ "; ".intercalate reasons

namespace ServiceModule

variable {σ : Type} [Service σ]

/--
What came of a call of several modules: the modules after it, and the names of the ones that were called,
in the order of the calls.
-/
structure Outcome (σ : Type) where
  modules : List (ServiceModule σ)
  called : List String
  result : Except ModuleError Unit

/-! ### Starting -/

/--
Put a module in front of the ones that an outcome is about.
-/
def Outcome.after (outcome : Outcome σ) (called : List String) (module : ServiceModule σ) :
    Outcome σ :=
  { outcome with modules := module :: outcome.modules, called := called ++ outcome.called }

/--
Start all modules in order, up to the first one that fails.
-/
def startAll (host : Host) : List (ServiceModule σ) → Outcome σ
  | [] => ⟨[], [], .ok ()⟩
  | module :: rest =>
    if module.enabled then
      match Service.start host module.service with
      | (.ok (), service) => (startAll host rest).after [module.name] { module with service }
      | (.error error, service) =>
        ⟨{ module with service } :: rest, [module.name], .error (.start module.name error)⟩
    else (startAll host rest).after [] module

/-! ### Stopping -/

/--
What came of stopping modules, with the failures in the order of the calls.
-/
structure StopOutcome (σ : Type) where
  modules : List (ServiceModule σ)
  called : List String
  failures : List (String × ServiceError)

/--
The failure of a module that could not be stopped. A module that does not run need not be stopped.
-/
def failureOf (name : String) : Except ServiceError Unit → List (String × ServiceError)
  | .ok () => []
  | .error .notRunning => []
  | .error error => [(name, error)]

/--
Stop modules one by one, the last one first.
-/
def stopEach : List (ServiceModule σ) → StopOutcome σ
  | [] => ⟨[], [], []⟩
  | module :: rest =>
    let after := stopEach rest
    if module.enabled then
      let (result, service) := Service.stop module.service
      ⟨{ module with service } :: after.modules, after.called ++ [module.name],
        after.failures ++ failureOf module.name result⟩
    else { after with modules := module :: after.modules }

def stopAll (modules : List (ServiceModule σ)) : Outcome σ :=
  let ⟨modules, called, failures⟩ := stopEach modules
  ⟨modules, called, if failures.isEmpty then .ok () else .error (.stop failures)⟩

/-! ### Health -/

/--
The health of a module. One that is not enabled does nothing wrong.
-/
def health (module : ServiceModule σ) : ModuleHealth where
  name := module.name
  enabled := module.enabled
  status := if module.enabled then Service.health module.service else .healthy

def cancel (module : ServiceModule σ) : ServiceModule σ :=
  { module with service := Service.cancel module.service }

end ServiceModule

/--
The modules of a daemon, with all else that belongs to its run.
-/
structure Supervisor (σ : Type) where
  modules : List (ServiceModule σ) := []
  /-- Whatever the modules left behind has been told to end. -/
  cancelled : Bool := false
  deriving Repr, Inhabited

namespace Supervisor

variable {σ : Type} [Service σ]

def health (supervisor : Supervisor σ) : List ModuleHealth :=
  supervisor.modules.map ServiceModule.health

def finish (modules : List (ServiceModule σ)) : Supervisor σ where
  modules := modules.map ServiceModule.cancel
  cancelled := true

/--
Start all modules. If that fails, the ones that have been started are stopped, and the run is over.
-/
def launch (supervisor : Supervisor σ) (host : Host) : Except ModuleError Unit × Supervisor σ :=
  let started := ServiceModule.startAll host supervisor.modules
  match started.result with
  | .ok () => (.ok (), { supervisor with modules := started.modules })
  | .error error => (.error error, finish (ServiceModule.stopAll started.modules).modules)

def shutdown (supervisor : Supervisor σ) : Except ModuleError Unit × Supervisor σ :=
  let stopped := ServiceModule.stopAll supervisor.modules
  (stopped.result, finish stopped.modules)

/--
A whole run: the modules are started, work goes on until a shutdown is asked for, and the modules are
stopped.
-/
def runUntil (supervisor : Supervisor σ) (host : Host) (work : Supervisor σ → Supervisor σ) :
    Except ModuleError Unit × Supervisor σ :=
  match supervisor.launch host with
  | (.ok (), supervisor) => (work supervisor).shutdown
  | (.error error, supervisor) => (.error error, supervisor)

end Supervisor

end WafWatch
