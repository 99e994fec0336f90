import WafWatch.Json.Value

/-!
This module holds the health of services, and the health of a daemon that is made of several ones.
-/

namespace WafWatch

/--
The health of a service.
-/
inductive Health where
  | healthy
  | degraded (reason : String)
  | unhealthy (reason : String)
  deriving DecidableEq, Repr, Inhabited

namespace Health

def isHealthy : Health → Bool
  | .healthy => true
  | _ => false

def isUnhealthy : Health → Bool
  | .unhealthy _ => true
  | _ => false

def toValue : Health → Json.Value
  | .healthy => .ofString "Healthy"
  | .degraded reason => .ofMembers [("Degraded", .ofString reason)]
  | .unhealthy reason => .ofMembers [("Unhealthy", .ofString reason)]

end Health

/--
What a module of the daemon reports of itself.
-/
structure ModuleHealth where
  name : String
  enabled : Bool
  status : Health
  deriving DecidableEq, Repr, Inhabited

namespace ModuleHealth

def explain (module : ModuleHealth) (reason : String) : String :=
  s!"{module.name}: {reason}"

def degradedReasons (modules : List ModuleHealth) : List String :=
  modules.filterMap fun module =>
    match module.status with
    | .degraded reason => some (module.explain reason)
    | _ => none

def unhealthyReasons (modules : List ModuleHealth) : List String :=
  modules.filterMap fun module =>
    match module.status with
    | .unhealthy reason => some (module.explain reason)
    | _ => none

def toValue (module : ModuleHealth) : Json.Value :=
  .ofMembers [("name", .ofString module.name), ("enabled", .bool module.enabled),
    ("status", module.status.toValue)]

end ModuleHealth

namespace Health

/--
Take a report into the worst health so far and the reasons for it.
-/
def worsen (state : Health × List String) (module : ModuleHealth) : Health × List String :=
  let (worst, reasons) := state
  match module.status with
  | .healthy => (worst, reasons)
  | .degraded reason =>
    if worst.isUnhealthy then (worst, reasons)
    else (.degraded "", reasons ++ [module.explain reason])
  | .unhealthy reason =>
    (.unhealthy "", (if worst.isUnhealthy then reasons else []) ++ [module.explain reason])

/--
The health of a daemon: the worst one of its enabled modules, with the reasons of all modules that are
as bad.
-/
def aggregate (modules : List ModuleHealth) : Health :=
  let (worst, reasons) := (modules.filter (·.enabled)).foldl worsen (.healthy, [])
  match worst with
  | .healthy => .healthy
  | .degraded _ => .degraded ("; ".intercalate reasons)
  | .unhealthy _ => .unhealthy ("; ".intercalate reasons)

end Health

end WafWatch
