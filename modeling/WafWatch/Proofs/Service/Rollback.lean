import WafWatch.Daemon.Module
import WafWatch.Proofs.Ingest.Lifecycle
import WafWatch.Proofs.Live.Lifecycle

/-!
This module contains what comes of starting and stopping the modules of a daemon. Starting calls them in order
up to the first one that refuses, stopping calls all of them in the opposite order, and a daemon that cannot
be started is left with nothing that runs.
-/

namespace WafWatch

/--
A service that keeps to its state: whoever starts runs, whoever refuses to start does not, and whoever does not
run need not be stopped.
-/
class LawfulService (σ : Type) [Service σ] where
  runs : σ → Bool
  runs_start {host : Host} {s : σ} :
    runs s = false → runs (Service.start host s).2 = (Service.start host s).1.isOk
  stop_of_idle {s : σ} :
    runs s = false → (Service.stop s).1 = .error .notRunning ∧ runs (Service.stop s).2 = false
  idle_of_stop {s : σ} : (Service.stop s).1 = .ok () → runs (Service.stop s).2 = false

/-! ### The services of the daemon -/

theorem Feed.state_start (feed : Feed) (host : Host)
    : (feed.start host).2.state
        = if (feed.start host).1.isOk then .running else feed.state := by
  rcases feed.start_cases host with ⟨address, -, -, hstart⟩ | ⟨error, hstart⟩
  . rw [hstart]
    rfl
  . rw [hstart]
    rfl

theorem Pipeline.state_start (pipeline : Pipeline)
    : pipeline.start.2.state = if pipeline.start.1.isOk then .running else pipeline.state := by
  unfold start takeSource
  split
  . rfl
  . cases pipeline.customSource with
    | some source => rfl
    | none => cases pipeline.settings.buildSource <;> rfl

def DaemonService.state : DaemonService → RunState
  | .feed live => live.state
  | .pipeline ingest => ingest.state

instance : LawfulService DaemonService where
  runs service := service.state == .running
  runs_start {host service} hidle := by
    cases service with
    | feed feed =>
      show ((feed.start host).2.state == .running) = (feed.start host).1.isOk
      rw [feed.state_start host]
      split
      . next hok => exact hok.symm
      . next herror => exact hidle.trans (Bool.eq_false_iff.mpr herror).symm
    | pipeline pipeline =>
      show (pipeline.start.2.state == .running) = pipeline.start.1.isOk
      rw [pipeline.state_start]
      split
      . next hok => exact hok.symm
      . next herror => exact hidle.trans (Bool.eq_false_iff.mpr herror).symm
  stop_of_idle {service} hidle := by
    have hstate : service.state ≠ .running := by simpa using hidle
    cases service with
    | feed feed =>
      have hstop := Feed.stop_of_not_running hstate
      show feed.stop.1 = _ ∧ (feed.stop.2.state == .running) = false
      rw [hstop]
      exact ⟨rfl, hidle⟩
    | pipeline pipeline =>
      have hstop := Pipeline.stop_of_not_running hstate
      show pipeline.stop.1 = _ ∧ (pipeline.stop.2.state == .running) = false
      rw [hstop]
      exact ⟨rfl, hidle⟩
  idle_of_stop {service} hstop := by
    cases service with
    | feed feed =>
      show (feed.stop.2.state == .running) = false
      by_cases hstate : feed.state = .running
      . rw [(Feed.stop_of_running hstate).2]
        rfl
      . have herror : feed.stop.1 = .ok () := hstop
        rw [Feed.stop_of_not_running hstate] at herror
        contradiction
    | pipeline pipeline =>
      show (pipeline.stop.2.state == .running) = false
      by_cases hstate : pipeline.state = .running
      . rw [Pipeline.stop_of_running hstate]
        rfl
      . have herror : pipeline.stop.1 = .ok () := hstop
        rw [Pipeline.stop_of_not_running hstate] at herror
        contradiction

namespace ServiceModule

variable {σ : Type}

/--
The names of the modules that are enabled.
-/
def callable (modules : List (ServiceModule σ)) : List String :=
  (modules.filter (·.enabled)).map (·.name)

theorem callable_cons (module : ServiceModule σ) (rest : List (ServiceModule σ)) :
    callable (module :: rest) = (if module.enabled then [module.name] else []) ++ callable rest := by
  unfold callable
  rw [List.filter_cons]
  split <;> rfl

variable [Service σ]

/--
The module is enabled, and it cannot be started.
-/
def refuses (host : Host) (module : ServiceModule σ) : Bool :=
  module.enabled && !(Service.start host module.service).1.isOk

/--
The module is enabled, and it can be stopped.
-/
def yields (module : ServiceModule σ) : Bool :=
  module.enabled && (Service.stop module.service).1.isOk

def afterStart (host : Host) (module : ServiceModule σ) : ServiceModule σ :=
  if module.enabled then { module with service := (Service.start host module.service).2 } else module

def afterStop (module : ServiceModule σ) : ServiceModule σ :=
  if module.enabled then { module with service := (Service.stop module.service).2 } else module

/--
Why a module could not be stopped, unless the reason is that it does not run.
-/
def complaint? (module : ServiceModule σ) : Option (String × ServiceError) :=
  match (Service.stop module.service).1 with
  | .ok () => none
  | .error error => if error = .notRunning then none else some (module.name, error)

/--
The complaints of the enabled modules, the one of the last module first.
-/
def complaints (modules : List (ServiceModule σ)) : List (String × ServiceError) :=
  (modules.filter (·.enabled)).reverse.filterMap complaint?

@[simp]
theorem afterStart_enabled (host : Host) (module : ServiceModule σ) :
    (module.afterStart host).enabled = module.enabled := by
  unfold afterStart
  split <;> rfl

/-! ### Starting -/

theorem startAll_cons_of_not_refuses {host : Host} {module : ServiceModule σ}
    (h : module.refuses host = false) (rest : List (ServiceModule σ))
    : startAll host (module :: rest)
        =
      (startAll host rest).after (if module.enabled then [module.name] else [])
        (module.afterStart host) := by
  unfold refuses at h
  rw [startAll, afterStart]
  split
  . next henabled =>
    rw [henabled, Bool.true_and, Bool.not_eq_false'] at h
    split
    . next service hstart => rw [hstart]
    . next error service hstart =>
      rw [hstart] at h
      contradiction
  . rfl

theorem startAll_of_refuses {host : Host} {module : ServiceModule σ}
    (h : module.refuses host = true) (rest : List (ServiceModule σ))
    : startAll host (module :: rest)
        =
      ⟨module.afterStart host :: rest, [module.name],
        (Service.start host module.service).1.mapError (.start module.name)⟩ := by
  unfold refuses at h
  rw [Bool.and_eq_true, Bool.not_eq_true'] at h
  obtain ⟨henabled, hstart⟩ := h
  unfold startAll afterStart
  rw [if_pos henabled, if_pos henabled]
  split
  . next service hok =>
    rw [hok] at hstart
    contradiction
  . next error service herror =>
    rw [herror]
    rfl

theorem callable_of_refuses {host : Host} {module : ServiceModule σ} (h : module.refuses host = true) :
    callable [module] = [module.name] := by
  unfold refuses at h
  rw [Bool.and_eq_true] at h
  simp [callable, h.1]

/--
Starting goes through modules up to the first one that refuses.
-/
theorem startAll_eq {host : Host} {before after : List (ServiceModule σ)}
    (hbefore : ∀ module ∈ before, module.refuses host = false)
    (hafter : ∀ module ∈ after.head?, module.refuses host = true)
    : startAll host (before ++ after)
        =
      ⟨(before ++ after.head?.toList).map (afterStart host) ++ after.tail,
        callable (before ++ after.head?.toList),
        match after.head? with
        | some module => (Service.start host module.service).1.mapError (.start module.name)
        | none => .ok ()⟩ := by
  induction before with
  | nil =>
    cases after with
    | nil => rfl
    | cons module rest =>
      have hrefuses := hafter module rfl
      rw [List.nil_append, startAll_of_refuses hrefuses]
      simp [callable_of_refuses hrefuses]
  | cons module before ih =>
    rw [List.forall_mem_cons] at hbefore
    rw [List.cons_append, startAll_cons_of_not_refuses hbefore.1, ih hbefore.2]
    unfold Outcome.after
    rw [← callable_cons]
    rfl

theorem exists_split_at_refuses (host : Host) (modules : List (ServiceModule σ))
    : ∃ before after, modules = before ++ after
        ∧ (∀ module ∈ before, module.refuses host = false)
        ∧ (∀ module ∈ after.head?, module.refuses host = true) := by
  induction modules with
  | nil => exact ⟨[], [], rfl, by simp, by simp⟩
  | cons module rest ih =>
    cases hrefuses : module.refuses host with
    | true => exact ⟨[], module :: rest, rfl, by simp, by simpa using hrefuses⟩
    | false =>
      obtain ⟨before, after, rfl, hbefore, hafter⟩ := ih
      exact ⟨module :: before, after, rfl, List.forall_mem_cons.mpr ⟨hrefuses, hbefore⟩, hafter⟩

/-! ### Stopping -/

theorem failureOf_eq_toList (module : ServiceModule σ) :
    failureOf module.name (Service.stop module.service).1 = module.complaint?.toList := by
  unfold complaint?
  cases (Service.stop module.service).1 with
  | ok value => rfl
  | error error => cases error <;> rfl

theorem complaints_cons (module : ServiceModule σ) (rest : List (ServiceModule σ))
    : complaints (module :: rest)
        = complaints rest ++ if module.enabled then module.complaint?.toList else [] := by
  unfold complaints
  rw [List.filter_cons]
  split
  . rw [List.reverse_cons, List.filterMap_append]
    cases hcomplaint : module.complaint? <;> simp [hcomplaint]
  . rw [List.append_nil]

theorem stopEach_eq (modules : List (ServiceModule σ))
    : stopEach modules
        = ⟨modules.map afterStop, (callable modules).reverse, complaints modules⟩ := by
  induction modules with
  | nil => rfl
  | cons module rest ih =>
    rw [stopEach, ih, List.map_cons, callable_cons, complaints_cons, ← failureOf_eq_toList, afterStop]
    split
    . simp
    . simp

theorem stopAll_eq (modules : List (ServiceModule σ))
    : stopAll modules
        =
      ⟨modules.map afterStop, (callable modules).reverse,
        if complaints modules = [] then .ok () else .error (.stop (complaints modules))⟩ := by
  unfold stopAll
  rw [stopEach_eq]
  simp only [List.isEmpty_iff]

/-! ### Rolling back -/

open LawfulService (runs)

variable [LawfulService σ]

theorem runs_afterStart {module : ServiceModule σ} (hidle : runs module.service = false) (host : Host)
    : runs (module.afterStart host).service = (module.enabled && !module.refuses host) := by
  unfold afterStart refuses
  cases module.enabled with
  | true => simpa using LawfulService.runs_start hidle
  | false => simpa using hidle

/--
What runs is enabled and can be stopped.
-/
def IsStoppable (module : ServiceModule σ) : Prop :=
  runs module.service = true →
    module.enabled = true ∧ (Service.stop module.service).1 = .ok ()

theorem IsStoppable.yields_eq {module : ServiceModule σ} (h : module.IsStoppable) :
    module.yields = runs module.service := by
  unfold yields
  cases hruns : runs module.service with
  | true =>
    obtain ⟨henabled, hstop⟩ := h hruns
    rw [henabled, hstop]
    rfl
  | false =>
    rw [(LawfulService.stop_of_idle hruns).1]
    exact Bool.and_false _

theorem IsStoppable.complaint?_eq_none {module : ServiceModule σ} (h : module.IsStoppable) :
    module.complaint? = none := by
  unfold complaint?
  cases hruns : runs module.service with
  | true => rw [(h hruns).2]
  | false =>
    rw [(LawfulService.stop_of_idle hruns).1]
    rfl

theorem IsStoppable.runs_afterStop {module : ServiceModule σ} (h : module.IsStoppable) :
    runs module.afterStop.service = false := by
  unfold afterStop
  cases hruns : runs module.service with
  | true =>
    obtain ⟨henabled, hstop⟩ := h hruns
    rw [if_pos henabled]
    exact LawfulService.idle_of_stop hstop
  | false =>
    split
    . exact (LawfulService.stop_of_idle hruns).2
    . exact hruns

theorem stopAll_of_stoppable {modules : List (ServiceModule σ)}
    (h : ∀ module ∈ modules, module.IsStoppable)
    : (stopAll modules).result = .ok ()
        ∧ (∀ module ∈ (stopAll modules).modules, runs module.service = false)
        ∧ modules.reverse.filter yields = (modules.filter (runs ·.service)).reverse := by
  rw [stopAll_eq]
  refine ⟨?_, ?_, ?_⟩
  . apply if_pos
    rw [complaints, List.filterMap_eq_nil_iff]
    intro module hmodule
    rw [List.mem_reverse, List.mem_filter] at hmodule
    exact (h module hmodule.1).complaint?_eq_none
  . rw [List.forall_mem_map]
    exact fun module hmodule => (h module hmodule).runs_afterStop
  . rw [List.filter_reverse, List.filter_congr fun module hmodule => (h module hmodule).yields_eq]

/--
After starting, those run that were started.
-/
theorem filter_runs_startAll {host : Host} {before after : List (ServiceModule σ)}
    (hidle : ∀ module ∈ before ++ after, runs module.service = false)
    (hbefore : ∀ module ∈ before, module.refuses host = false)
    (hafter : ∀ module ∈ after.head?, module.refuses host = true)
    : (startAll host (before ++ after)).modules.filter (runs ·.service)
        = (before.filter (·.enabled)).map (afterStart host) := by
  rw [List.forall_mem_append] at hidle
  have hstarted : (before.map (afterStart host)).filter (runs ·.service)
      = (before.filter (·.enabled)).map (afterStart host) := by
    rw [List.filter_map]
    congr 1
    apply List.filter_congr
    intro module hmodule
    rw [Function.comp_apply, runs_afterStart (hidle.1 module hmodule), hbefore module hmodule]
    exact Bool.and_true _
  rw [startAll_eq hbefore hafter]
  cases after with
  | nil => simpa using hstarted
  | cons module rest =>
    have hlast : runs (module.afterStart host).service = false := by
      rw [runs_afterStart (hidle.2 module List.mem_cons_self), hafter module rfl]
      exact Bool.and_false _
    have hrest : rest.filter (runs ·.service) = [] := by
      rw [List.filter_eq_nil_iff]
      intro module hmodule
      simp [hidle.2 module (List.mem_cons_of_mem _ hmodule)]
    simp [List.filter_append, hstarted, hlast, hrest]

end ServiceModule

/-! ### Runs -/

namespace Supervisor

open ServiceModule
open LawfulService (runs)

variable {σ : Type} [Service σ]

theorem runUntil_of_error {supervisor : Supervisor σ} {host : Host} {error : ModuleError}
    (h : (startAll host supervisor.modules).result = .error error)
    (work : Supervisor σ → Supervisor σ)
    : supervisor.runUntil host work
        = (.error error, finish (stopAll (startAll host supervisor.modules).modules).modules) := by
  unfold runUntil launch
  simp only [h]

theorem runUntil_of_ok {supervisor : Supervisor σ} {host : Host}
    (h : (startAll host supervisor.modules).result = .ok ()) (work : Supervisor σ → Supervisor σ)
    : supervisor.runUntil host work
        =
      (work { supervisor with modules := (startAll host supervisor.modules).modules }).shutdown := by
  unfold runUntil launch
  simp only [h]

/--
Modules that do not run are started in order up to the first one that refuses, and stopped one by one in the
opposite order, whatever becomes of each. If one refuses and all that run can be stopped, nothing runs after
that, and exactly the ones that were started were stopped. A whole run ends with the error of starting or else
with what came of stopping, and in any case whatever has been left behind is told to end.
-/
theorem runUntil_rolls_back [LawfulService σ] (supervisor : Supervisor σ) (host : Host)
    (hidle : ∀ module ∈ supervisor.modules, runs module.service = false)
    : let launched := startAll host supervisor.modules
      (∃ before after, supervisor.modules = before ++ after
          ∧ (∀ module ∈ before, module.refuses host = false)
          ∧ (∀ module ∈ after.head?, module.refuses host = true)
          ∧ launched.called = callable (before ++ after.head?.toList)
          ∧ launched.modules
              = (before ++ after.head?.toList).map (afterStart host) ++ after.tail
          ∧ launched.result
              = (match after.head? with
                | some module =>
                  (Service.start host module.service).1.mapError (.start module.name)
                | none => .ok ())
          ∧ ((∀ module ∈ launched.modules, runs module.service = true →
                (Service.stop module.service).1 = .ok ()) →
              (stopAll launched.modules).result = .ok ()
                ∧ (∀ module ∈ (stopAll launched.modules).modules, runs module.service = false)
                ∧ launched.modules.reverse.filter yields
                    = ((before.filter (·.enabled)).map (afterStart host)).reverse))
        ∧
      (∀ modules : List (ServiceModule σ),
        (stopAll modules).called = (callable modules).reverse
          ∧ (stopAll modules).modules = modules.map afterStop
          ∧ (stopAll modules).result
              = if complaints modules = [] then .ok () else .error (.stop (complaints modules)))
        ∧
      (∀ work,
        let ended := supervisor.runUntil host work
        ended.2.cancelled = true
          ∧ (∀ error, launched.result = .error error →
              ended = (.error error, finish (stopAll launched.modules).modules))
          ∧ (launched.result = .ok () →
              let stopped := stopAll (work { supervisor with modules := launched.modules }).modules
              ended = (stopped.result, finish stopped.modules))) := by
  intro launched
  refine ⟨?_, ?_, ?_⟩
  . obtain ⟨before, after, hsplit, hbefore, hafter⟩ := exists_split_at_refuses host supervisor.modules
    have hlaunched : launched = startAll host (before ++ after) := congrArg _ hsplit
    have heq := hlaunched.trans (startAll_eq hbefore hafter)
    refine ⟨before, after, hsplit, hbefore, hafter, congrArg _ heq, congrArg _ heq, congrArg _ heq, ?_⟩
    intro hstop
    rw [hsplit] at hidle
    have hruns := filter_runs_startAll hidle hbefore hafter
    rw [← hlaunched] at hruns
    have hstoppable : ∀ module ∈ launched.modules, module.IsStoppable := by
      intro module hmodule hmoduleRuns
      refine ⟨?_, hstop module hmodule hmoduleRuns⟩
      have hstarted : module ∈ launched.modules.filter (runs ·.service) :=
        List.mem_filter.mpr ⟨hmodule, hmoduleRuns⟩
      rw [hruns, List.mem_map] at hstarted
      obtain ⟨original, horiginal, rfl⟩ := hstarted
      rw [afterStart_enabled]
      exact (List.mem_filter.mp horiginal).2
    rw [← hruns]
    exact stopAll_of_stoppable hstoppable
  . intro modules
    rw [stopAll_eq]
    exact ⟨rfl, rfl, rfl⟩
  . intro work ended
    cases hresult : launched.result with
    | error error =>
      have hended : ended = _ := runUntil_of_error hresult work
      refine ⟨?_, ?_, nofun⟩
      . rw [hended]
        rfl
      . intro _ hsame
        injection hsame with hsame
        rw [hended, hsame]
    | ok value =>
      have hended : ended = _ := runUntil_of_ok hresult work
      refine ⟨?_, nofun, ?_⟩
      . rw [hended]
        rfl
      . intro _
        exact hended

/--
The third module cannot listen, so the two that run by then are stopped, the pipeline first. The second module is
not enabled, and the last one is never started.
-/
theorem runUntil_rolls_back_refused
    : let host : Host :=
        { file := fun _ => { status := .error .notFound, reading := .error .notFound }
          run := fun _ _ _ => .timedOut
          listen := fun address => if address.port = 1 then .error .addressInUse else .ok address }
      let stamps : StampSupply := ⟨fun _ => default, 0⟩
      let feed (port : UInt16) : DaemonService :=
        .feed (.ofSettings { bindAddress := { ip := default, port } } (.empty 1) stamps)
      let pipeline : DaemonService :=
        .pipeline { settings := default, store := .empty 1, stamps, customSource := some (.demo false) }
      let supervisor : Supervisor DaemonService := {
        modules := [
          { name := "feed", service := feed 0 }, { name := "quiet", enabled := false, service := feed 0 },
          { name := "pipeline", service := pipeline }, { name := "busy", service := feed 1 },
          { name := "spare", service := feed 0 }] }
      let launched := startAll host supervisor.modules
      (∀ module ∈ supervisor.modules, runs module.service = false)
        ∧ launched.called = ["feed", "pipeline", "busy"]
        ∧ launched.result.isOk = false
        ∧ (stopAll launched.modules).called = ["spare", "busy", "pipeline", "feed"]
        ∧ (stopAll launched.modules).result = .ok ()
        ∧ (∀ module ∈ (stopAll launched.modules).modules, runs module.service = false)
        ∧ ∀ work, (supervisor.runUntil host work).2.cancelled = true := by
  intro host stamps feed pipeline supervisor launched
  have hidle : ∀ module ∈ supervisor.modules, runs module.service = false := by decide +kernel
  have hrun := runUntil_rolls_back supervisor host hidle
  extract_lets at hrun
  obtain ⟨⟨_, _, -, -, -, -, -, -, hstopped⟩, -, hended⟩ := hrun
  have hstop : ∀ module ∈ launched.modules, runs module.service = true →
      (Service.stop module.service).1 = .ok () := by
    decide +kernel
  obtain ⟨hresult, hnone, -⟩ := hstopped hstop
  exact ⟨hidle, by decide +kernel, by decide +kernel, by decide +kernel, hresult, hnone,
    fun work => (hended work).1⟩

end Supervisor

end WafWatch
