import WafWatch.Daemon.Basic
import WafWatch.Proofs.Result

/-!
This module contains what separates settings that pass their checks from settings that a daemon can be built
of. The live feed and the log pipeline have checks of their own, which ask for more: the feed for an address
to listen at and for queues with room for two messages, the pipeline for a path that does not lead upwards or
for the name of a program.
-/

namespace WafWatch

/-! ### Checks -/

theorem Check.verdict_eq_ok_iff {ε : Type} {checks : List Check} {complain : Check → ε}
    : (match firstFailure checks with
        | some check => Except.error (complain check)
        | none => .ok ()) = .ok ()
        ↔
      ∀ check ∈ checks, check.holds = true := by
  have hnone : firstFailure checks = none ↔ ∀ check ∈ checks, check.holds = true := by
    simp [firstFailure, List.find?_eq_none]
  rw [← hnone]
  cases firstFailure checks <;> simp

theorem Settings.validate_eq_ok_iff {s : Settings} :
    s.validate = .ok () ↔ ∀ check ∈ s.checks, check.holds = true :=
  Check.verdict_eq_ok_iff

theorem LiveSettings.validate_eq_ok_iff {s : LiveSettings} :
    s.validate = .ok () ↔ ∀ check ∈ s.checks, check.holds = true :=
  Check.verdict_eq_ok_iff

theorem PipelineSettings.validate_eq_ok_iff {s : PipelineSettings} :
    s.validate = .ok () ↔ ∀ check ∈ s.checks, check.holds = true :=
  Check.verdict_eq_ok_iff

/-! ### The live feed -/

/--
There is an address to listen at, and the queues have room for the two messages that come first.
-/
def HubSettings.IsServable (s : HubSettings) : Prop :=
  (Net.SocketAddress.read? s.bindAddr.toList).isSome = true ∧ 2 ≤ s.queueCapacity

namespace LiveSettings

def ofAddress (address : Net.SocketAddress) (s : HubSettings) : LiveSettings where
  bindAddress := address
  maxConnections := s.maxConnections
  queueCapacity := s.queueCapacity
  statsInterval := .ofSeconds s.statsIntervalSecs
  pingInterval := .ofSeconds s.pingIntervalSecs
  readTimeout := .ofSeconds s.readTimeoutSecs
  writeTimeout := .ofSeconds s.writeTimeoutSecs
  maxMessageSize := s.maxMessageSize
  defaultLogLimit := s.defaultLogLimit

theorem readAddress_eq_ok_iff {text : String} {address : Net.SocketAddress} :
    readAddress text = .ok address ↔ Net.SocketAddress.read? text.toList = some address := by
  unfold readAddress
  cases Net.SocketAddress.read? text.toList <;> simp

theorem validate_ofAddress_eq_ok_iff {s : HubSettings}
    (hchecks : ∀ check ∈ s.checks, check.holds = true) (address : Net.SocketAddress)
    : (ofAddress address s).validate = .ok () ↔ 2 ≤ s.queueCapacity := by
  simp only [HubSettings.checks, Check.positive, List.forall_mem_cons, bne_iff_ne,
    decide_eq_true_eq] at hchecks
  obtain ⟨-, hconnections, -, hstats, hping, -, hwrite, hsize, -, htimeout, -⟩ := hchecks
  rw [validate_eq_ok_iff]
  simp only [checks, Check.positive, List.forall_mem_cons, bne_iff_ne, Bool.and_eq_true,
    decide_eq_true_eq]
  dsimp only [ofAddress, Time.Span.ofSeconds]
  constructor
  . rintro ⟨hqueue, -⟩
    exact hqueue
  . intro hqueue
    refine ⟨hqueue, hconnections, hsize, ?_, by omega, nofun⟩
    omega

theorem ofHub_isOk_iff {s : HubSettings} (hchecks : ∀ check ∈ s.checks, check.holds = true) :
    (ofHub s).isOk = true ↔ s.IsServable := by
  have hofHub : ofHub s = readAddress s.bindAddr >>= fun address =>
      (ofAddress address s).validate >>= fun _ => pure (ofAddress address s) := rfl
  rw [hofHub]
  simp only [isOk_bind_iff, readAddress_eq_ok_iff, validate_ofAddress_eq_ok_iff hchecks]
  unfold HubSettings.IsServable
  rw [Option.isSome_iff_exists]
  constructor
  . rintro ⟨address, haddress, _, hqueue, -⟩
    exact ⟨⟨address, haddress⟩, hqueue⟩
  . rintro ⟨⟨address, haddress⟩, hqueue⟩
    exact ⟨address, haddress, (), hqueue, rfl⟩

end LiveSettings

/-! ### The log pipeline -/

/--
A file is followed at an absolute path without parts that lead upwards, and a command names a program.
-/
def IngestSettings.IsRunnable (s : IngestSettings) : Prop :=
  (s.source = "file" →
    s.logFile.toList.head? = some '/' ∧ ['.', '.'] ∉ s.logFile.toList.splitOn '/')
    ∧
  (s.source = "command" → ∃ program, s.command.head? = some program ∧ program ≠ "")

namespace PipelineSettings

theorem pathParts_eq_splitOn (path : List Char) : pathParts path = path.splitOn '/' := by
  induction path with
  | nil => rfl
  | cons c rest ih =>
    rw [List.splitOn_cons_eq_if_modifyHead, ← ih]
    by_cases hslash : c = '/'
    . simp [hslash, pathParts]
    . simp only [pathParts, beq_iff_eq, hslash, ite_false]
      cases hparts : pathParts rest with
      | nil =>
        rw [hparts] at ih
        exact absurd ih.symm (List.splitOn_ne_nil _ _)
      | cons part parts => rfl

theorem logFileChecks_hold_iff {path : String}
    : (∀ check ∈ logFileChecks path, check.holds = true)
        ↔
      path.toList.head? = some '/' ∧ ['.', '.'] ∉ path.toList.splitOn '/' := by
  simp only [logFileChecks, List.forall_mem_cons, pathParts_eq_splitOn, beq_iff_eq, Bool.not_eq_true',
    List.contains_eq_mem, decide_eq_false_iff_not]
  constructor
  . rintro ⟨-, hparts, habsolute, -⟩
    exact ⟨habsolute, hparts⟩
  . rintro ⟨habsolute, hparts⟩
    refine ⟨?_, hparts, habsolute, nofun⟩
    rw [String.isEmpty_eq_false_iff]
    rintro rfl
    simp at habsolute

theorem commandChecks_hold_iff {s : PipelineSettings} (htimeout : s.commandTimeoutSecs ≠ 0)
    : (∀ check ∈ s.commandChecks, check.holds = true)
        ↔
      ∃ program, s.command.head? = some program ∧ program ≠ "" := by
  simp [commandChecks, Check.positive, htimeout, Option.any_eq_true]

theorem ofIngest_of_source {s : IngestSettings} {kind : SourceKind} (hsource : s.source = kind.name) :
    ofIngest s = .ok (ofKind kind s) := by
  unfold ofIngest
  rw [hsource]
  cases kind <;> rfl

theorem validate_ofKind_eq_ok_iff {s : IngestSettings}
    (hchecks : ∀ check ∈ s.checks, check.holds = true) {kind : SourceKind}
    (hsource : s.source = kind.name)
    : (ofKind kind s).validate = .ok () ↔ s.IsRunnable := by
  simp only [IngestSettings.checks, List.forall_mem_cons] at hchecks
  obtain ⟨-, -, -, hpoll, hstore, htimeout, hline, -⟩ := hchecks
  have hcommon : ∀ check ∈ [Check.upTo "store_capacity" maxStoreCapacity s.storeCapacity,
      .upTo "poll_interval_secs" maxPollIntervalSecs s.pollIntervalSecs,
      .positive "max_line_length" s.maxLineLength], check.holds = true := by
    simp only [List.forall_mem_cons]
    exact ⟨hstore, hpoll, hline, nofun⟩
  unfold IngestSettings.IsRunnable
  rw [validate_eq_ok_iff, checks, List.forall_mem_append, hsource]
  cases kind with
  | file =>
    refine (and_iff_right hcommon).trans (logFileChecks_hold_iff.trans ?_)
    simp [SourceKind.name, ofKind]
  | command =>
    have htimeout : s.commandTimeoutSecs ≠ 0 := by simpa [Check.positive] using htimeout
    refine (and_iff_right hcommon).trans ((commandChecks_hold_iff htimeout).trans ?_)
    simp [SourceKind.name, ofKind]
  | demo =>
    refine (and_iff_right hcommon).trans ?_
    simp [SourceKind.name, ofKind]

theorem exists_source {s : IngestSettings} (hchecks : ∀ check ∈ s.checks, check.holds = true) :
    ∃ kind : SourceKind, s.source = kind.name := by
  simp only [IngestSettings.checks, Check.oneOf, sourceNames, List.forall_mem_cons] at hchecks
  have hsource : s.source = "file" ∨ s.source = "command" ∨ s.source = "demo" := by
    simpa using hchecks.1
  rcases hsource with hfile | hcommand | hdemo
  . exact ⟨.file, hfile⟩
  . exact ⟨.command, hcommand⟩
  . exact ⟨.demo, hdemo⟩

end PipelineSettings

theorem Pipeline.build_ofIngest_isOk_iff {s : IngestSettings}
    (hchecks : ∀ check ∈ s.checks, check.holds = true) (store : EventStore) (stamps : StampSupply)
    : (PipelineSettings.ofIngest s >>= fun settings =>
          build settings (some store) none stamps).isOk = true
        ↔
      s.IsRunnable := by
  obtain ⟨kind, hsource⟩ := PipelineSettings.exists_source hchecks
  rw [PipelineSettings.ofIngest_of_source hsource]
  rw [← PipelineSettings.validate_ofKind_eq_ok_iff hchecks hsource]
  show (build _ _ _ _).isOk = true ↔ _
  unfold build
  rw [isOk_bind_iff]
  constructor
  . rintro ⟨_, hvalid, -⟩
    exact hvalid
  . intro hvalid
    exact ⟨(), hvalid, rfl⟩

namespace DaemonModule

theorem feed?_isOk_iff {s : HubSettings}
    (hchecks : s.enabled = true → ∀ check ∈ s.checks, check.holds = true) (store : EventStore)
    (stamps : StampSupply)
    : (feed? s store stamps).isOk = true ↔ (s.enabled = true → s.IsServable) := by
  unfold feed?
  split
  . next henabled =>
    have hservable := LiveSettings.ofHub_isOk_iff (hchecks henabled)
    rw [← hservable, forall_prop_of_true henabled]
    cases LiveSettings.ofHub s <;> rfl
  . next hdisabled =>
    simp [hdisabled, Except.isOk, Except.toBool]

theorem pipeline?_isOk_iff {s : IngestSettings}
    (hchecks : s.enabled = true → ∀ check ∈ s.checks, check.holds = true) (store : EventStore)
    (stamps : StampSupply)
    : (pipeline? s store stamps).isOk = true ↔ (s.enabled = true → s.IsRunnable) := by
  unfold pipeline?
  split
  . next henabled =>
    have hrunnable := Pipeline.build_ofIngest_isOk_iff (hchecks henabled) store stamps
    rw [← hrunnable, forall_prop_of_true henabled]
    cases PipelineSettings.ofIngest s with
    | error error => rfl
    | ok settings =>
      simp only [bind, Except.bind]
      cases Pipeline.build settings (some store) none stamps <;> rfl
  . next hdisabled =>
    simp [hdisabled, Except.isOk, Except.toBool]

end DaemonModule

theorem Settings.checks_hold {s : Settings} (hvalid : s.validate = .ok ())
    : (s.hub.enabled = true → ∀ check ∈ s.hub.checks, check.holds = true)
        ∧
      (s.ingest.enabled = true → ∀ check ∈ s.ingest.checks, check.holds = true) := by
  rw [validate_eq_ok_iff] at hvalid
  simp only [checks, List.forall_mem_append] at hvalid
  obtain ⟨⟨⟨-, hingest⟩, hhub⟩, -⟩ := hvalid
  constructor
  . intro henabled
    rwa [if_pos henabled] at hhub
  . intro henabled
    rwa [if_pos henabled] at hingest

namespace Daemon

theorem build_isOk_iff_enabled {settings : Settings} (hmetrics : settings.metrics.enabled = false)
    (hvalid : settings.validate = .ok ()) (stamps : StampSupply)
    : (build settings stamps).isOk = true
        ↔
      (settings.hub.enabled = true → settings.hub.IsServable)
        ∧ (settings.ingest.enabled = true → settings.ingest.IsRunnable) := by
  obtain ⟨hhub, hingest⟩ := Settings.checks_hold hvalid
  let store := EventStore.empty settings.ingest.storeCapacity
  rw [← DaemonModule.feed?_isOk_iff hhub store stamps,
    ← DaemonModule.pipeline?_isOk_iff hingest store stamps]
  unfold build
  rw [hvalid, hmetrics]
  show (DaemonModule.feed? settings.hub store stamps >>= fun feed =>
    DaemonModule.pipeline? settings.ingest store stamps >>= fun pipeline => pure _).isOk = true ↔ _
  cases DaemonModule.feed? settings.hub store stamps with
  | error error => simp [bind, Except.bind, Except.isOk, Except.toBool]
  | ok feed =>
    cases DaemonModule.pipeline? settings.ingest store stamps with
    | error error => simp [bind, Except.bind, Except.isOk, Except.toBool]
    | ok pipeline => simp [bind, Except.bind, pure, Except.pure, Except.isOk, Except.toBool]

/--
A daemon without metrics can be built of settings that pass their checks exactly if the feed, when it is
enabled, has an address to listen at and queues for two messages at least, and the pipeline, when it is enabled,
follows a file at an absolute path without parts that lead upwards, or runs a command with a name, or shows the
demonstration.
-/
theorem build_isOk_iff {settings : Settings} (hmetrics : settings.metrics.enabled = false)
    (hvalid : settings.validate = .ok ()) (stamps : StampSupply)
    : (settings.hub.enabled = true →
        ((LiveSettings.ofHub settings.hub).isOk = true ↔ settings.hub.IsServable))
        ∧
      (settings.ingest.enabled = true → ∀ store,
        ((PipelineSettings.ofIngest settings.ingest >>= fun pipeline =>
            Pipeline.build pipeline (some store) none stamps).isOk = true
          ↔ settings.ingest.IsRunnable))
        ∧
      ((build settings stamps).isOk = true
        ↔
      (settings.hub.enabled = true → settings.hub.IsServable)
        ∧ (settings.ingest.enabled = true → settings.ingest.IsRunnable)) := by
  obtain ⟨hhub, hingest⟩ := Settings.checks_hold hvalid
  refine ⟨?_, ?_, ?_⟩
  . intro henabled
    exact LiveSettings.ofHub_isOk_iff (hhub henabled)
  . intro henabled store
    exact Pipeline.build_ofIngest_isOk_iff (hingest henabled) store stamps
  . exact build_isOk_iff_enabled hmetrics hvalid stamps

/-- A command with a name can be run at the smallest queues. -/
theorem build_isOk_iff_command
    : let settings : Settings :=
        { ingest := { source := "command", command := ["tail", "-n", "5", "/log"], logFile := "" }
          hub := { bindAddr := "[::1]:0", queueCapacity := 2 } }
      settings.metrics.enabled = false
        ∧
      settings.validate = .ok ()
        ∧
      (build settings { stamp := fun _ => default }).isOk = true := by
  intro settings
  have hvalid : settings.validate = .ok () := Settings.validate_eq_ok_iff.mpr (by decide)
  have hbuild := build_isOk_iff rfl hvalid { stamp := fun _ => default }
  refine ⟨rfl, hvalid, hbuild.2.2.mpr ⟨fun _ => ?_, fun _ => ?_⟩⟩
  . exact ⟨by decide +kernel, Nat.le_refl 2⟩
  . exact ⟨fun hfile => absurd hfile (by decide), fun _ => ⟨"tail", rfl, by decide⟩⟩

/-- A name is no address, and only the feed looks at that. -/
theorem exists_valid_not_build
    : ¬∀ (settings : Settings) (stamps : StampSupply), settings.metrics.enabled = false →
        settings.validate = .ok () → (build settings stamps).isOk = true := by
  intro hall
  let settings : Settings := { hub := { bindAddr := "localhost-ish" } }
  have hvalid : settings.validate = .ok () := Settings.validate_eq_ok_iff.mpr (by decide)
  have hbuild := hall settings { stamp := fun _ => default } rfl hvalid
  have herror : (build settings { stamp := fun _ => default }).isOk = false := by decide +kernel
  rw [herror] at hbuild
  contradiction

end Daemon

end WafWatch
