import WafWatch.Daemon.Module

/-!
This module contains the daemon: its settings and the modules that are made of them, and what goes on while
they run.
-/

namespace WafWatch

/--
The daemon.
-/
structure Daemon where
  settings : Settings
  supervisor : Supervisor DaemonService

namespace Daemon

/--
The daemon that the settings ask for. The live feed comes before the log pipeline, so that the hub is
ready when the first events are stored.
-/
def build (settings : Settings) (stamps : StampSupply) : Except BuildError Daemon := do
  settings.validate.mapError .settings
  if settings.metrics.enabled then
    discard (settings.metrics.address.mapError .endpoint)
  let store := EventStore.empty settings.ingest.storeCapacity
  let feed ← DaemonModule.feed? settings.hub store stamps
  let pipeline ← DaemonModule.pipeline? settings.ingest store stamps
  pure { settings, supervisor := { modules := feed.toList ++ pipeline.toList } }

def modules (daemon : Daemon) : List DaemonModule :=
  daemon.supervisor.modules

def withModules (daemon : Daemon) (modules : List DaemonModule) : Daemon :=
  { daemon with supervisor := { daemon.supervisor with modules } }

def pipeline? (daemon : Daemon) : Option Pipeline :=
  (daemon.modules.filterMap DaemonModule.asPipeline?).head?

def feed? (daemon : Daemon) : Option Feed :=
  (daemon.modules.filterMap DaemonModule.asFeed?).head?

def store (daemon : Daemon) : EventStore :=
  match daemon.pipeline?, daemon.feed? with
  | some pipeline, _ => pipeline.store
  | none, some feed => feed.station.store
  | none, none => .empty daemon.settings.ingest.storeCapacity

def health (daemon : Daemon) : List ModuleHealth :=
  daemon.supervisor.health

/-! ### Running -/

/--
Start the daemon. If a module cannot be started, nothing runs.
-/
def launch (daemon : Daemon) (host : Host) : Except ModuleError Unit × Daemon :=
  (daemon.supervisor.launch host).map id fun supervisor => { daemon with supervisor }

def shutdown (daemon : Daemon) : Except ModuleError Unit × Daemon :=
  daemon.supervisor.shutdown.map id fun supervisor => { daemon with supervisor }

/--
Do what is due, and pass on what has been stored.
-/
def settle (daemon : Daemon) (host : Host) : Daemon :=
  daemon.withModules (DaemonModule.relay (daemon.modules.map (DaemonModule.settle host)))

def timeLeft? (daemon : Daemon) : Option Nat :=
  (daemon.modules.filterMap DaemonModule.timeLeft?).min?

/--
Let the clock of every module go on, without doing what is due meanwhile.
-/
def pass (daemon : Daemon) (millis : Nat) : Daemon :=
  daemon.withModules (daemon.modules.map (DaemonModule.pass millis))

def withStamps (daemon : Daemon) (stamps : StampSupply) : Daemon :=
  daemon.withModules (daemon.modules.map (DaemonModule.withStamps stamps))

/--
Advance the clock, and stop on the way at most `count` times when something is due.
-/
def advanceBy (daemon : Daemon) (host : Host) (millis : Nat) : (count : Nat) → Daemon
  | 0 => daemon
  | count + 1 =>
    let due := daemon.timeLeft?.getD millis
    let span := min (max due 1) millis
    let daemon :=
      (daemon.withModules (daemon.modules.map (DaemonModule.advance host span))).settle host
    if span < millis then daemon.advanceBy host (millis - span) count else daemon

def advance (daemon : Daemon) (host : Host) (millis : Nat) : Daemon :=
  daemon.advanceBy host millis (millis + 1)

def onStation (daemon : Daemon) (change : Station → Station) : Daemon :=
  daemon.withModules (daemon.modules.map fun module =>
    match module.service with
    | .feed feed =>
      { module with service := .feed { feed with station := change feed.station } }
    | .pipeline _ => module)

end Daemon

end WafWatch
