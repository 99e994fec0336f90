import WafWatch.Daemon.Basic
import WafWatch.Daemon.Help
import WafWatch.Daemon.Logging
import WafWatch.Settings.Load

/-!
This module contains what happens before the daemon runs: the settings are put together from a file, the
environment and the command line, each of which overrides the ones before it, and only the result is
checked. Throughout, `wording` is what the TOML library says about a document that does not give settings.
-/

namespace WafWatch

/--
Why the program fails.
-/
inductive LaunchError where
  | load (error : ServiceError)
  | build (error : BuildError)
  | log (error : UnknownLogFormat)
  | modules (error : ModuleError)
  deriving DecidableEq, Repr, Inhabited

def LaunchError.message : LaunchError → String
  | .load error => s!"failed to load config: {error.message}"
  | .build error => error.message
  | .log error => error.message
  | .modules error => error.message

namespace Options

def override (options : Options) (settings : Settings) : Settings :=
  { settings with
    general :=
      { logLevel := options.logLevel.getD settings.general.logLevel
        logFormat := options.logFormat.getD settings.general.logFormat } }

def baseSettings (options : Options) (wording : String → String) (host : Host) :
    Except ServiceError Settings :=
  match options.config with
  | some path => Settings.ofFile wording path (host.file path)
  | none => .ok {}

def settings (options : Options) (wording : String → String) (host : Host) (environment : Environment) :
    Except LaunchError Settings := do
  let base ← (options.baseSettings wording host).mapError .load
  let settings := options.override (base.override environment)
  settings.validate.mapError fun error => .build (.settings error)
  pure settings

end Options

def Daemon.ofFile (wording : String → String) (path : String) (host : Host) (environment : Environment)
    (stamps : StampSupply) : Except LaunchError Daemon := do
  let settings ← (Settings.load wording path (host.file path) environment).mapError .load
  (Daemon.build settings stamps).mapError .build

/--
Build the daemon of settings that have been checked, after the log has been set up.
-/
def Daemon.prepare (settings : Settings) (stamps : StampSupply) : Except LaunchError Daemon := do
  discard ((LogFormat.read settings.general.logFormat).mapError .log)
  (Daemon.build settings stamps).mapError .build

/-! ### The program -/

/--
How a program ends: its exit code, and what it has printed.
-/
structure Ending where
  code : Nat
  output : String := ""
  errors : String := ""
  deriving DecidableEq, Repr, Inhabited

def LaunchError.ending (error : LaunchError) : Ending where
  code := 1
  errors := s!"Error: {error.message}\n"

/--
What is printed when the settings have been checked and nothing else was asked for.
-/
def validText : String := "configuration is valid\n"

/--
The exit code of a program whose arguments are not understood.
-/
def usageCode : Nat := 2

/--
What the program does: it explains its usage, it ends at once, or it runs a daemon.
-/
inductive Launch where
  /-- The arguments are not understood. -/
  | refused (error : UsageError)
  | ended (ending : Ending)
  | run (daemon : Daemon)

namespace Launch

def ofOptions (options : Options) (wording : String → String) (host : Host) (environment : Environment)
    (stamps : StampSupply) : Launch :=
  match options.settings wording host environment with
  | .error error => .ended error.ending
  | .ok settings =>
    if options.validate then .ended { code := 0, output := validText }
    else
      match Daemon.prepare settings stamps with
      | .error error => .ended error.ending
      | .ok daemon => .run daemon

def ofArguments (arguments : List String) (wording : String → String) (host : Host)
    (environment : Environment) (stamps : StampSupply) : Launch :=
  match Invocation.parse arguments with
  | .error error => .refused error
  | .ok (.help detailed) => .ended { code := 0, output := helpText detailed }
  | .ok .version => .ended { code := 0, output := versionText }
  | .ok (.run options) => ofOptions options wording host environment stamps

end Launch

def Ending.ofResult : Except ModuleError Unit → Ending
  | .ok () => { code := 0 }
  | .error error => (LaunchError.modules error).ending

end WafWatch
