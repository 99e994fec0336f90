import WafWatch.Proofs.Settings.Part

/-!
This module contains the proof that each setting is decided by the first of these that says something of it: the
command line, its variable, the variable that was used before, the file, the default. No variable decides a setting
that it is not named after, and only what comes of all of them is checked.
-/

namespace WafWatch

/-! ### The parts -/

def GeneralSettings.part : Part GeneralSettings where
  name := "general"
  initial := {}
  settings := [
    { name := "log_level", kind := .text, get := logLevel, set := fun a s => { s with logLevel := a },
      option? := Options.logLevel },
    { name := "log_format", kind := .text, get := logFormat, set := fun a s => { s with logFormat := a },
      option? := Options.logFormat }]

def IngestSettings.part : Part IngestSettings where
  name := "ingest"
  initial := {}
  settings := [
    { name := "enabled", kind := .flag, get := enabled, set := fun a s => { s with enabled := a } },
    { name := "source", kind := .text, get := source, set := fun a s => { s with source := a } },
    { name := "log_file", kind := .text, get := logFile, set := fun a s => { s with logFile := a },
      other? := some "MODSECURITY_LOG_FILE" },
    { name := "command", kind := .words, get := command, set := fun a s => { s with command := a } },
    { name := "command_timeout_secs", kind := .numeral maxUInt64, get := commandTimeoutSecs,
      set := fun a s => { s with commandTimeoutSecs := a } },
    { name := "poll_interval_secs", kind := .numeral maxUInt64, get := pollIntervalSecs,
      set := fun a s => { s with pollIntervalSecs := a } },
    { name := "store_capacity", kind := .numeral maxUInt64, get := storeCapacity,
      set := fun a s => { s with storeCapacity := a } },
    { name := "demo_fallback", kind := .flag, get := demoFallback, set := fun a s => { s with demoFallback := a } },
    { name := "max_line_length", kind := .numeral maxUInt64, get := maxLineLength,
      set := fun a s => { s with maxLineLength := a } }]

def HubSettings.part : Part HubSettings where
  name := "hub"
  initial := {}
  settings := [
    { name := "enabled", kind := .flag, get := enabled, set := fun a s => { s with enabled := a } },
    { name := "bind_addr", kind := .text, get := bindAddr, set := fun a s => { s with bindAddr := a } },
    { name := "max_connections", kind := .numeral maxUInt64, get := maxConnections,
      set := fun a s => { s with maxConnections := a } },
    { name := "queue_capacity", kind := .numeral maxUInt64, get := queueCapacity,
      set := fun a s => { s with queueCapacity := a } },
    { name := "stats_interval_secs", kind := .numeral maxUInt64, get := statsIntervalSecs,
      set := fun a s => { s with statsIntervalSecs := a } },
    { name := "ping_interval_secs", kind := .numeral maxUInt64, get := pingIntervalSecs,
      set := fun a s => { s with pingIntervalSecs := a } },
    { name := "read_timeout_secs", kind := .numeral maxUInt64, get := readTimeoutSecs,
      set := fun a s => { s with readTimeoutSecs := a } },
    { name := "write_timeout_secs", kind := .numeral maxUInt64, get := writeTimeoutSecs,
      set := fun a s => { s with writeTimeoutSecs := a } },
    { name := "max_message_size", kind := .numeral maxUInt64, get := maxMessageSize,
      set := fun a s => { s with maxMessageSize := a } },
    { name := "default_log_limit", kind := .numeral maxUInt32, get := defaultLogLimit,
      set := fun a s => { s with defaultLogLimit := a } }]

def MetricsSettings.part : Part MetricsSettings where
  name := "metrics"
  initial := {}
  settings := [
    { name := "enabled", kind := .flag, get := enabled, set := fun a s => { s with enabled := a } },
    { name := "listen_addr", kind := .text, get := listenAddr, set := fun a s => { s with listenAddr := a } },
    { name := "port", kind := .numeral maxUInt16, get := port, set := fun a s => { s with port := a } },
    { name := "endpoint", kind := .text, get := endpoint, set := fun a s => { s with endpoint := a },
      hasVariable := false }]

theorem GeneralSettings.lawful_part : part.Lawful where
  get_set := by simp [part]
  apart := by simp [part, Setting.apart_iff]
  nodup := by decide
  ext record record' h := by
    simp only [part, List.forall_mem_cons] at h
    cases record
    cases record'
    simp_all

theorem IngestSettings.lawful_part : part.Lawful where
  get_set := by simp [part]
  apart := by simp [part, Setting.apart_iff]
  nodup := by decide
  ext record record' h := by
    simp only [part, List.forall_mem_cons] at h
    cases record
    cases record'
    simp_all

theorem HubSettings.lawful_part : part.Lawful where
  get_set := by simp [part]
  apart := by simp [part, Setting.apart_iff]
  nodup := by decide
  ext record record' h := by
    simp only [part, List.forall_mem_cons] at h
    cases record
    cases record'
    simp_all

theorem MetricsSettings.lawful_part : part.Lawful where
  get_set := by simp [part]
  apart := by simp [part, Setting.apart_iff]
  nodup := by decide
  ext record record' h := by
    simp only [part, List.forall_mem_cons] at h
    cases record
    cases record'
    simp_all

namespace Settings

/--
Something holds of each part of the settings.
-/
structure ForParts (p : {σ : Type} → Part σ → (Settings → σ) → Prop) : Prop where
  general : p GeneralSettings.part general
  ingest : p IngestSettings.part ingest
  hub : p HubSettings.part hub
  metrics : p MetricsSettings.part metrics

variable {p q : {σ : Type} → Part σ → (Settings → σ) → Prop}

theorem ForParts.imp (h : ForParts p)
    (himp : ∀ {σ : Type} (part : Part σ) (get : Settings → σ), p part get → q part get)
    : ForParts q :=
  ⟨himp _ _ h.general, himp _ _ h.ingest, himp _ _ h.hub, himp _ _ h.metrics⟩

theorem ForParts.and (h : ForParts p) (h' : ForParts q) : ForParts fun part get => p part get ∧ q part get :=
  ⟨⟨h.general, h'.general⟩, ⟨h.ingest, h'.ingest⟩, ⟨h.hub, h'.hub⟩, ⟨h.metrics, h'.metrics⟩⟩

theorem lawful_parts : ForParts fun part _ => part.Lawful :=
  ⟨GeneralSettings.lawful_part, IngestSettings.lawful_part, HubSettings.lawful_part, MetricsSettings.lawful_part⟩

/--
The settings are the settings of their parts.
-/
theorem eq_of_forParts {settings settings' : Settings}
    (h : ForParts fun part get => ∀ setting ∈ part.settings, setting.get (get settings) = setting.get (get settings'))
    : settings = settings' := by
  have hgeneral := GeneralSettings.lawful_part.ext _ _ h.general
  have hingest := IngestSettings.lawful_part.ext _ _ h.ingest
  have hhub := HubSettings.lawful_part.ext _ _ h.hub
  have hmetrics := MetricsSettings.lawful_part.ext _ _ h.metrics
  obtain ⟨general, ingest, hub, metrics⟩ := settings
  obtain ⟨general', ingest', hub', metrics'⟩ := settings'
  dsimp only at hgeneral hingest hhub hmetrics
  rw [hgeneral, hingest, hhub, hmetrics]

theorem override_parts
    : ForParts fun part get => ∀ (settings : Settings) (environment : Environment),
        get (settings.override environment) = part.overrides.foldl (Override.run environment) (get settings) :=
  ⟨fun _ _ => rfl, fun _ _ => rfl, fun _ _ => rfl, fun _ _ => rfl⟩

theorem get_override
    : ForParts fun part get => ∀ setting ∈ part.settings, ∀ (settings : Settings) (environment : Environment),
        setting.get (get (settings.override environment))
          = (setting.ofEnvironment? part.name environment).getD (setting.get (get settings)) := by
  refine (lawful_parts.and override_parts).imp ?_
  rintro σ part get ⟨hlawful, hoverride⟩ setting hsetting settings environment
  rw [hoverride, hlawful.get_override hsetting]

theorem override_override (settings : Settings) (environment : Environment) :
    (settings.override environment).override environment = settings.override environment := by
  apply eq_of_forParts
  refine get_override.imp ?_
  intro σ part get hget setting hsetting
  rw [hget setting hsetting, hget setting hsetting]
  cases setting.ofEnvironment? part.name environment <;> rfl

end Settings

/-! ### Documents -/

namespace Settings

theorem get_put_record {σ τ α : Type} {name : String} {fields : List (Toml.RecordField τ)} {get : σ → τ}
    {set : τ → σ → σ} {other : σ → α} (hset : ∀ inner record, other (set inner record) = other record)
    (value : Toml.Value) (record after : σ)
    (h : (Toml.RecordField.record name fields get set).put value record = .ok after)
    : other after = other record := by
  have hresult {result : Except Toml.Mismatch τ}
      (hput : (result >>= fun inner => pure (set inner record)) = .ok after)
      : other after = other record := by
    obtain ⟨inner, -, rfl⟩ := bind_pure_eq_ok_iff.mp hput
    exact hset inner record
  cases value <;> exact hresult h

theorem isFieldOf_general
    : GeneralSettings.part.IsFieldOf fields general fun inner settings => { settings with general := inner } where
  find?_eq := rfl
  get_set _ _ := rfl
  get_put := by
    simp only [fields, List.forall_mem_cons]
    refine ⟨?_, ?_, ?_, ?_, nofun⟩
    . exact fun hname => absurd rfl hname
    . exact fun _ => get_put_record fun _ _ => rfl
    . exact fun _ => get_put_record fun _ _ => rfl
    . exact fun _ => get_put_record fun _ _ => rfl

theorem isFieldOf_ingest
    : IngestSettings.part.IsFieldOf fields ingest fun inner settings => { settings with ingest := inner } where
  find?_eq := rfl
  get_set _ _ := rfl
  get_put := by
    simp only [fields, List.forall_mem_cons]
    refine ⟨?_, ?_, ?_, ?_, nofun⟩
    . exact fun _ => get_put_record fun _ _ => rfl
    . exact fun hname => absurd rfl hname
    . exact fun _ => get_put_record fun _ _ => rfl
    . exact fun _ => get_put_record fun _ _ => rfl

theorem isFieldOf_hub
    : HubSettings.part.IsFieldOf fields hub fun inner settings => { settings with hub := inner } where
  find?_eq := rfl
  get_set _ _ := rfl
  get_put := by
    simp only [fields, List.forall_mem_cons]
    refine ⟨?_, ?_, ?_, ?_, nofun⟩
    . exact fun _ => get_put_record fun _ _ => rfl
    . exact fun _ => get_put_record fun _ _ => rfl
    . exact fun hname => absurd rfl hname
    . exact fun _ => get_put_record fun _ _ => rfl

theorem isFieldOf_metrics
    : MetricsSettings.part.IsFieldOf fields metrics fun inner settings => { settings with metrics := inner } where
  find?_eq := rfl
  get_set _ _ := rfl
  get_put := by
    simp only [fields, List.forall_mem_cons]
    refine ⟨?_, ?_, ?_, ?_, nofun⟩
    . exact fun _ => get_put_record fun _ _ => rfl
    . exact fun _ => get_put_record fun _ _ => rfl
    . exact fun _ => get_put_record fun _ _ => rfl
    . exact fun hname => absurd rfl hname

/--
A document decides for each setting what it gives for it; what it does not give is taken from the defaults.
-/
theorem takes_putEntries {document : Toml.Entries} {settings : Settings}
    (h : Toml.putEntries fields {} document = .ok settings)
    : ForParts fun part get => ∀ setting ∈ part.settings,
        Part.Takes setting (part.entries document) part.initial (get settings) where
  general _ hsetting :=
    GeneralSettings.lawful_part.takes hsetting (GeneralSettings.lawful_part.putEntries_part isFieldOf_general h)
  ingest _ hsetting :=
    IngestSettings.lawful_part.takes hsetting (IngestSettings.lawful_part.putEntries_part isFieldOf_ingest h)
  hub _ hsetting := HubSettings.lawful_part.takes hsetting (HubSettings.lawful_part.putEntries_part isFieldOf_hub h)
  metrics _ hsetting :=
    MetricsSettings.lawful_part.takes hsetting (MetricsSettings.lawful_part.putEntries_part isFieldOf_metrics h)

end Settings

/-! ### Layers -/

/--
The first of these that says something decides a setting: the command line, the environment, the document, the
default. What the document gives is of the kind of the setting.
-/
structure Part.Decides {σ : Type} (part : Part σ) (options : Options) (environment : Environment)
    (document : Toml.Entries) (setting : Setting σ) (record : σ) : Prop where
  get_eq : setting.get record
    = ((setting.option? options).or ((setting.ofEnvironment? part.name environment).or
        ((part.given? document setting).bind setting.kind.fieldType.decode))).getD (setting.get part.initial)
  isSome : ∀ value, part.given? document setting = some value → (setting.kind.fieldType.decode value).isSome = true

namespace Options

theorem get_override
    : Settings.ForParts fun part get => ∀ setting ∈ part.settings, ∀ (options : Options) (settings : Settings),
        setting.get (get (options.override settings))
          = (setting.option? options).getD (setting.get (get settings)) := by
  constructor
  . simp [GeneralSettings.part, override]
  . simp [IngestSettings.part, override]
  . simp [HubSettings.part, override]
  . simp [MetricsSettings.part, override]

/--
The document is what is read of the file that is asked for, or it is empty if no file is asked for.
-/
def Reads (options : Options) (host : Host) (document : Toml.Entries) : Prop :=
  match options.config with
  | none => document = []
  | some path => ∃ octets chars, (host.file path).opening = .ok () ∧ (host.file path).reading = .ok octets
      ∧ Text.decode? octets = some chars ∧ Toml.read chars = .ok document

theorem baseSettings_eq_ok {options : Options} {wording : String → String} {host : Host} {base : Settings}
    (h : options.baseSettings wording host = .ok base)
    : ∃ document, options.Reads host document ∧ Toml.putEntries Settings.fields {} document = .ok base := by
  unfold baseSettings at h
  unfold Reads
  split at h
  . next path hpath =>
    unfold Settings.ofFile at h
    split at h
    . contradiction
    . contradiction
    . contradiction
    . next hopening hreading =>
      split at h
      . next chars hchars =>
        unfold Settings.parse at h
        split at h
        . contradiction
        . next document hdocument =>
          split at h
          . contradiction
          . next settings hput =>
            cases h
            refine ⟨document, ?_, hput⟩
            simp only [hpath]
            exact ⟨_, chars, hopening, hreading, hchars, hdocument⟩
      . contradiction
  . next hpath =>
    cases h
    refine ⟨[], ?_, rfl⟩
    simp only [hpath]

theorem settings_eq_ok_iff {options : Options} {wording : String → String} {host : Host}
    {environment : Environment} {settings : Settings}
    : options.settings wording host environment = .ok settings
        ↔
      ∃ base, options.baseSettings wording host = .ok base ∧ options.override (base.override environment) = settings
        ∧ settings.validate = .ok () := by
  unfold Options.settings
  simp only [bind_eq_ok_iff, mapError_eq_ok_iff]
  constructor
  . rintro ⟨base, hbase, _, hvalid, hsettings⟩
    cases hsettings
    exact ⟨base, hbase, rfl, hvalid⟩
  . rintro ⟨base, hbase, rfl, hvalid⟩
    exact ⟨base, hbase, (), hvalid, rfl⟩

theorem decides_of_settings_eq_ok {options : Options} {wording : String → String} {host : Host}
    {environment : Environment} {settings : Settings}
    (h : options.settings wording host environment = .ok settings)
    : ∃ document, options.Reads host document
        ∧ Settings.ForParts fun part get => ∀ setting ∈ part.settings,
            part.Decides options environment document setting (get settings) := by
  obtain ⟨base, hbase, rfl, -⟩ := settings_eq_ok_iff.mp h
  obtain ⟨document, hreads, hput⟩ := baseSettings_eq_ok hbase
  refine ⟨document, hreads, ?_⟩
  refine ((get_override.and Settings.get_override).and (Settings.takes_putEntries hput)).imp ?_
  rintro σ part get ⟨⟨hoptions, henvironment⟩, htakes⟩ setting hsetting
  obtain ⟨hget, hsome⟩ := htakes setting hsetting
  refine ⟨?_, hsome⟩
  rw [hoptions setting hsetting, henvironment setting hsetting, hget, Option.getD_or, Option.getD_or]
  rfl

/--
The settings that are neither overridden by the command line nor by the environment are all that matters of a file.
-/
theorem settings_eq_settings {options : Options} {wording : String → String} {host host' : Host}
    {environment : Environment} {base base' : Settings} (hbase : options.baseSettings wording host = .ok base)
    (hbase' : options.baseSettings wording host' = .ok base')
    (hsame : Settings.ForParts fun part get => ∀ setting ∈ part.settings,
      setting.option? options = none → setting.ofEnvironment? part.name environment = none →
        setting.get (get base) = setting.get (get base'))
    : options.settings wording host environment = options.settings wording host' environment := by
  have hmerged : options.override (base.override environment) = options.override (base'.override environment) := by
    apply Settings.eq_of_forParts
    refine ((get_override.and Settings.get_override).and hsame).imp ?_
    rintro σ part get ⟨⟨hoptions, henvironment⟩, hsame⟩ setting hsetting
    rw [hoptions setting hsetting, hoptions setting hsetting]
    cases hoption : setting.option? options with
    | some a => rfl
    | none =>
      rw [henvironment setting hsetting, henvironment setting hsetting]
      cases hvariable : setting.ofEnvironment? part.name environment with
      | some a => rfl
      | none => exact hsame setting hsetting hoption hvariable
  unfold Options.settings
  rw [hbase, hbase']
  change (do
      let settings := options.override (base.override environment)
      settings.validate.mapError fun error => LaunchError.build (.settings error)
      pure settings) = _
  rw [hmerged]
  rfl

/--
Each setting is decided by the first of these that says something of it: the command line, the variable named after
it, the variable that was used before, the file, the default. Only what comes of all of them is checked, so nothing in
a file that is overridden matters. To override twice is to override once. Each variable decides one setting; the
command line decides only general settings, every setting has a variable of its own but the path of the metrics
endpoint, and the settings are no more than these.
-/
theorem settings_layered (options : Options) (wording : String → String) (host : Host)
    (environment : Environment)
    : (∀ settings, options.settings wording host environment = .ok settings →
        ∃ document, options.Reads host document
          ∧ Settings.ForParts fun part get => ∀ setting ∈ part.settings,
              part.Decides options environment document setting (get settings))
        ∧
      (∀ settings, options.settings wording host environment = .ok settings ↔
        ∃ base, options.baseSettings wording host = .ok base ∧ options.override (base.override environment) = settings
          ∧ settings.validate = .ok ())
        ∧
      (∀ host' base base', options.baseSettings wording host = .ok base →
        options.baseSettings wording host' = .ok base' →
        (Settings.ForParts fun part get => ∀ setting ∈ part.settings,
          setting.option? options = none → setting.ofEnvironment? part.name environment = none →
            setting.get (get base) = setting.get (get base')) →
          options.settings wording host environment = options.settings wording host' environment)
        ∧
      (∀ base : Settings, (base.override environment).override environment = base.override environment)
        ∧
      (Settings.ForParts fun part get => ∀ setting ∈ part.settings, ∀ (base : Settings) (environment' : Environment),
        (∀ name ∈ setting.variableNames part.name, environment.text? name = environment'.text? name) →
          setting.get (get (base.override environment)) = setting.get (get (base.override environment')))
        ∧
      (GeneralSettings.part.variableNames ++ IngestSettings.part.variableNames ++ HubSettings.part.variableNames
        ++ MetricsSettings.part.variableNames).Nodup
        ∧
      (Settings.ForParts fun part _ => ∀ setting ∈ part.settings,
        (part.name ≠ "general" → ∀ options, setting.option? options = none)
          ∧ (setting.hasVariable = true ↔ ¬(part.name = "metrics" ∧ setting.name = "endpoint"))
          ∧ (setting.other? = if part.name = "ingest" ∧ setting.name = "log_file" then some "MODSECURITY_LOG_FILE"
              else none))
        ∧
      ∀ settings settings' : Settings,
        (Settings.ForParts fun part get => ∀ setting ∈ part.settings,
          setting.get (get settings) = setting.get (get settings')) →
          settings = settings' := by
  refine ⟨fun _ => decides_of_settings_eq_ok, fun _ => settings_eq_ok_iff, fun _ _ _ => settings_eq_settings,
    ?_, ?_, ?_, ?_, fun _ _ => Settings.eq_of_forParts⟩
  . intro base
    exact base.override_override environment
  . refine Settings.get_override.imp ?_
    intro σ part get hget setting hsetting base environment' hsame
    rw [hget setting hsetting, hget setting hsetting, Setting.ofEnvironment?_congr hsame]
  . decide +kernel
  . constructor
    . simp [GeneralSettings.part]
    . simp [IngestSettings.part]
    . simp [HubSettings.part]
    . simp [MetricsSettings.part]

/--
A level that there is not is accepted in a file if the environment gives another one, and not the other way round.
-/
theorem settings_layered_level :
    let host (text : String) : Host :=
      { file _ := { status := .error .notFound, reading := .ok text.toUTF8.toList }
        run _ _ _ := .timedOut
        listen _ := .error .notFound }
    let environment (level : String) : Environment := [("WAFSCOPE_GENERAL_LOG_LEVEL", level.toUTF8.toList)]
    let options : Options := { config := some "f" }
    let wording : String → String := fun _ => "TOML parse error at line 1, column 1"
    (∃ settings, options.settings wording (host "general.log_level = 'loud'") (environment "debug") = .ok settings
      ∧ settings.general.logLevel = "debug")
      ∧
    (options.settings wording (host "general.log_level = 'debug'") (environment "loud")).isOk = false := by
  intro host environment options wording
  refine ⟨?_, by decide +kernel⟩
  have hok : (options.settings wording (host "general.log_level = 'loud'") (environment "debug")).isOk = true := by
    decide +kernel
  have hlevel : (environment "debug").text? "WAFSCOPE_GENERAL_LOG_LEVEL" = some "debug".toList := by
    decide +kernel
  cases hsettings : options.settings wording (host "general.log_level = 'loud'") (environment "debug") with
  | error error =>
    rw [hsettings] at hok
    contradiction
  | ok settings =>
    have hlayers := settings_layered options wording (host "general.log_level = 'loud'") (environment "debug")
    obtain ⟨document, -, hdecides⟩ := hlayers.1 settings hsettings
    have hget := (hdecides.general _ List.mem_cons_self).get_eq
    refine ⟨settings, rfl, hget.trans ?_⟩
    change ((((environment "debug").text? "WAFSCOPE_GENERAL_LOG_LEVEL").bind readSomeText?).or none |>.or _).getD _
      = "debug"
    rw [hlevel]
    rfl

end Options

end WafWatch
