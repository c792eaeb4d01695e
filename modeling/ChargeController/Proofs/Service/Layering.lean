import ChargeController.Service.File
import Mathlib.Data.Option.Basic
import Mathlib.Logic.Function.Basic
import Mathlib.Tactic.Lemma

/-!
# Layers of configuration

The fifteen settings come from three layers, which are put together in three ways: two sections of
a file replace all their settings at once, four set one key at a time, and variables override one
setting each.  Whatever the way, each setting comes out on its own: from its variable, or else from
its key in the file, or else with its usual value.

* `ServiceSetting` — the settings, each with its variable and its place in a file.
* **`FileConfig.ofConfig_onto`** — what a file leaves of the usual values.
* **`settings_layered`** — where each setting comes from, and when there is no configuration.
-/

namespace ChargeController

/-! ## Settings -/

/-- The settings of the service. -/
inductive ServiceSetting where
  | enabled
  | deviceId
  | controllerType
  | serialPort
  | baudRate
  | slaveId
  | timeout
  | retryAttempts
  | retryDelay
  | pollInterval
  | collectionTimeout
  | strategy
  | recovery
  | cacheTtl
  | topicRoot
deriving DecidableEq

namespace ServiceSetting

/-- The values of a setting. -/
abbrev Value : ServiceSetting → Type
  | enabled => Bool
  | deviceId => String
  | controllerType => String
  | serialPort => String
  | strategy => Strategy
  | topicRoot => String
  | _ => Nat

/-- The value that a configuration has for a setting. -/
def ofConfig : (s : ServiceSetting) → ServiceConfig → s.Value
  | enabled => ServiceConfig.enabled
  | deviceId => fun c => c.identity.deviceId
  | controllerType => fun c => c.identity.controllerType
  | serialPort => fun c => c.link.serialPort
  | baudRate => fun c => c.link.baudRate
  | slaveId => fun c => c.link.slaveId
  | timeout => fun c => c.link.timeout
  | retryAttempts => fun c => c.link.retryAttempts
  | retryDelay => fun c => c.link.retryDelay
  | pollInterval => ServiceConfig.pollInterval
  | collectionTimeout => ServiceConfig.collectionTimeout
  | strategy => ServiceConfig.strategy
  | recovery => ServiceConfig.recovery
  | cacheTtl => ServiceConfig.cacheTtl
  | topicRoot => ServiceConfig.topicRoot

/-- The environment variable of a setting. -/
def variableName : ServiceSetting → String
  | enabled => "SOLAR_ENABLED"
  | deviceId => "SOLAR_DEVICE_ID"
  | controllerType => "SOLAR_CONTROLLER_TYPE"
  | serialPort => "SOLAR_SERIAL_PORT"
  | baudRate => "SOLAR_BAUD_RATE"
  | slaveId => "SOLAR_SLAVE_ID"
  | timeout => "SOLAR_MODBUS_TIMEOUT_MS"
  | retryAttempts => "SOLAR_RETRY_ATTEMPTS"
  | retryDelay => "SOLAR_RETRY_DELAY_MS"
  | pollInterval => "SOLAR_POLL_INTERVAL_MS"
  | collectionTimeout => "SOLAR_COLLECTION_TIMEOUT_MS"
  | strategy => "SOLAR_BATCHED_READS"
  | recovery => "SOLAR_READ_RECOVERY_MS"
  | cacheTtl => "SOLAR_CACHE_TTL_SECS"
  | topicRoot => "SOLAR_TOPIC_PREFIX"

/-- The value of a variable, if its text is one of the setting. -/
def readText : (s : ServiceSetting) → String → Option s.Value
  | enabled => ConfigLayer.readSwitch
  | deviceId => some
  | controllerType => some
  | serialPort => some
  | baudRate => Text.decimal? UInt32.size
  | slaveId => Text.decimal? UInt8.size
  | timeout => Text.decimal? UInt64.size
  | retryAttempts => Text.decimal? UInt64.size
  | retryDelay => Text.decimal? UInt64.size
  | pollInterval => Text.decimal? UInt64.size
  | collectionTimeout => Text.decimal? UInt64.size
  | strategy => ConfigLayer.readStrategy
  | recovery => Text.decimal? UInt64.size
  | cacheTtl => Text.decimal? UInt64.size
  | topicRoot => some

/-- What the environment says about a setting. -/
def ofEnvironment (s : ServiceSetting) (env : Environment) : Option s.Value :=
  (env s.variableName).bind s.readText

/-- The section of a file that a setting belongs to. -/
def form : ServiceSetting → SectionForm
  | enabled => .device
  | deviceId => .device
  | controllerType => .device
  | serialPort => .serial
  | baudRate => .serial
  | slaveId => .serial
  | timeout => .serial
  | retryAttempts => .serial
  | retryDelay => .serial
  | pollInterval => .poller
  | collectionTimeout => .poller
  | strategy => .collector
  | recovery => .collector
  | cacheTtl => .configurer
  | topicRoot => .publisher

/-- The key of a setting in its section. -/
def key : ServiceSetting → String
  | enabled => "enabled"
  | deviceId => "device_id"
  | controllerType => "controller_type"
  | serialPort => "serial_port"
  | baudRate => "baud_rate"
  | slaveId => "slave_id"
  | timeout => "timeout_ms"
  | retryAttempts => "retry_attempts"
  | retryDelay => "retry_delay_ms"
  | pollInterval => "poll_interval_ms"
  | collectionTimeout => "collection_timeout_ms"
  | strategy => "strategy"
  | recovery => "read_recovery_ms"
  | cacheTtl => "cache_ttl_secs"
  | topicRoot => "topic_prefix"

/-- The value of a key, if it is one of the setting. -/
def readKey {V : Type} (d : Dialect V) : (s : ServiceSetting) → V → Option s.Value
  | enabled => d.boolean?
  | deviceId => d.text?
  | controllerType => d.text?
  | serialPort => d.text?
  | baudRate => d.natural? UInt32.size
  | slaveId => d.natural? UInt8.size
  | timeout => d.natural? UInt64.size
  | retryAttempts => d.natural? UInt64.size
  | retryDelay => d.natural? UInt64.size
  | pollInterval => d.natural? UInt64.size
  | collectionTimeout => d.natural? UInt64.size
  | strategy => Section.strategy? d
  | recovery => d.natural? UInt64.size
  | cacheTtl => d.natural? UInt64.size
  | topicRoot => d.text?

lemma variableName_ne_config (s : ServiceSetting) : s.variableName ≠ "SOLAR_CONFIG" := by
  cases s <;> decide

lemma variableName_injective : Function.Injective variableName := by
  intro s s' h
  cases s <;> cases s' <;> first | rfl | exact absurd h (by decide)

/-- Every variable overrides its own setting. -/
lemma ofConfig_environment (s : ServiceSetting) (env : Environment) (base : ServiceConfig) :
    s.ofConfig ((ConfigLayer.ofEnvironment env).onto base) =
      (s.ofEnvironment env).getD (s.ofConfig base) := by
  cases s <;> simp [ofConfig, ofEnvironment, variableName, readText, ConfigLayer.onto,
    ConfigLayer.ofEnvironment]

end ServiceSetting

/-! ## Sections of a file -/

variable {V α : Type} {d : Dialect V}

/-- An empty value is none of any kind. -/
structure Dialect.NullIsNone (d : Dialect V) : Prop where
  text {v} : d.isNull v = true → d.text? v = none
  natural {v} (limit : Nat) : d.isNull v = true → d.natural? limit v = none
  choice {v} : d.isNull v = true → d.choice? v = none

lemma Dialect.json_nullIsNone : Dialect.json.NullIsNone where
  text {v} h := by cases v <;> first | rfl | cases h
  natural {v} limit h := by cases v <;> first | rfl | cases h
  choice {v} h := by cases v <;> first | rfl | cases h

lemma Dialect.toml_nullIsNone : Dialect.toml.NullIsNone where
  text h := by cases h
  natural _ h := by cases h
  choice h := by cases h

namespace Section

/-- The value of a key; an empty one is none. -/
def valueOf (d : Dialect V) (keys : Section V) (key : String) : Option V :=
  (keys key).filter (!d.isNull ·)

/-- A section of a document by key, if the document has it. -/
def inside (d : Dialect V) (document : Section V) (form : SectionForm) : Option (Section V) :=
  (valueOf d document form.name).bind (d.sectionOf? form.keys form.complete)

lemma optionalKey_eq_some {keys : Section V} {key : String} {read : V → Option α} {x : Option α}
    (h : keys.optionalKey d key read = some x) : (keys.valueOf d key).bind read = x := by
  simp only [optionalKey] at h
  split at h
  · next hkey => simpa [valueOf, hkey] using h
  · next v hkey =>
      split at h
      · next hnull => simpa [valueOf, hkey, Option.filter, hnull] using h
      · next hnull =>
          obtain ⟨value, hread, rfl⟩ := Option.map_eq_some_iff.mp h
          simp [valueOf, hkey, Option.filter, hnull, hread]

lemma keyOr_eq_some {keys : Section V} {key : String} {usual : α} {read : V → Option α} {x : α}
    (hnull : ∀ v, d.isNull v = true → read v = none) (h : keys.keyOr key usual read = some x) :
    ((keys.valueOf d key).bind read).getD usual = x := by
  simp only [keyOr] at h
  split at h
  · next hkey => simpa [valueOf, hkey] using h
  · next v hkey =>
      have hvalue : ¬ d.isNull v = true := by
        intro hv
        rw [hnull v hv] at h
        cases h
      simp [valueOf, hkey, Option.filter, hvalue, h]

/-- A section that was read is one that the document has not, or one that it has. -/
lemma readSection_eq_some {document : Section V} {form : SectionForm}
    {read : Section V → Option α} {x : Option α}
    (h : FileConfig.readSection d document form read = some x) :
    (document.inside d form = none ∧ x = none) ∨
      ∃ keys part, document.inside d form = some keys ∧ read keys = some part ∧ x = some part := by
  simp only [FileConfig.readSection, optionalKey] at h
  split at h
  · next hkey =>
      refine .inl ⟨by simp [inside, valueOf, hkey], ?_⟩
      exact (Option.some.inj h).symm
  · next v hkey =>
      split at h
      · next hnull =>
          refine .inl ⟨by simp [inside, valueOf, hkey, Option.filter, hnull], ?_⟩
          exact (Option.some.inj h).symm
      · next hnull =>
          obtain ⟨part, hpart, rfl⟩ := Option.map_eq_some_iff.mp h
          obtain ⟨keys, hkeys, hread⟩ := Option.bind_eq_some_iff.mp hpart
          exact .inr ⟨keys, part, by simp [inside, valueOf, hkey, Option.filter, hnull, hkeys],
            hread, rfl⟩

end Section

namespace ServiceSetting

/-- The value that a document gives for a setting. -/
def ofDocument (d : Dialect V) (document : V) (s : ServiceSetting) : Option s.Value := do
  let sections : Section V ← d.sectionOf? (SectionForm.all.map (·.name)) true document
  let keys ← sections.inside d s.form
  (keys.valueOf d s.key).bind (s.readKey d)

end ServiceSetting

namespace FileConfig

variable {sections : Section V}

/-- What a document gives for a key of a section, in a form of its own. -/
def told (d : Dialect V) (sections : Section V) (form : SectionForm) (key : String)
    (read : V → Option α) : Option α :=
  (sections.inside d form).bind fun keys => (keys.valueOf d key).bind read

lemma device_told {part : Option DeviceSection}
    (h : readSection d sections .device (Section.device? d) = some part) :
    told d sections .device "enabled" d.boolean? = part.bind (·.enabled) ∧
      told d sections .device "device_id" d.text? = part.bind (·.deviceId) ∧
      told d sections .device "controller_type" d.text? = part.bind (·.controllerType) := by
  rcases Section.readSection_eq_some h with ⟨hinside, rfl⟩ | ⟨keys, part, hinside, hread, rfl⟩
  · simp [told, hinside]
  · simp only [Section.device?, Option.bind_eq_bind, Option.bind_eq_some_iff, Option.pure_def,
      Option.some.injEq] at hread
    obtain ⟨_, henabled, _, hid, _, htype, rfl⟩ := hread
    simp [told, hinside, Section.optionalKey_eq_some henabled, Section.optionalKey_eq_some hid,
      Section.optionalKey_eq_some htype]

lemma serial_told (hnull : d.NullIsNone) {part : Option LinkSettings}
    (h : readSection d sections .serial (Section.serial? d) = some part) :
    let link := part.getD .usual
    (told d sections .serial "serial_port" d.text?).getD LinkSettings.usual.serialPort =
        link.serialPort ∧
      (told d sections .serial "baud_rate" (d.natural? UInt32.size)).getD
        LinkSettings.usual.baudRate = link.baudRate ∧
      (told d sections .serial "slave_id" (d.natural? UInt8.size)).getD
        LinkSettings.usual.slaveId = link.slaveId ∧
      (told d sections .serial "timeout_ms" (d.natural? UInt64.size)).getD
        LinkSettings.usual.timeout = link.timeout ∧
      (told d sections .serial "retry_attempts" (d.natural? UInt64.size)).getD
        LinkSettings.usual.retryAttempts = link.retryAttempts ∧
      (told d sections .serial "retry_delay_ms" (d.natural? UInt64.size)).getD
        LinkSettings.usual.retryDelay = link.retryDelay := by
  have hnat (limit : Nat) (v : V) := hnull.natural (v := v) limit
  rcases Section.readSection_eq_some h with ⟨hinside, rfl⟩ | ⟨keys, part, hinside, hread, rfl⟩
  · simp [told, hinside]
  · simp only [Section.serial?, Option.bind_eq_bind, Option.bind_eq_some_iff, Option.pure_def,
      Option.some.injEq] at hread
    obtain ⟨_, hport, _, hbaud, _, hslave, _, htimeout, _, hattempts, _, hdelay, rfl⟩ := hread
    simp only [told, hinside, Option.bind_some, Option.getD_some]
    exact ⟨Section.keyOr_eq_some (fun _ => hnull.text) hport, Section.keyOr_eq_some (hnat _) hbaud,
      Section.keyOr_eq_some (hnat _) hslave, Section.keyOr_eq_some (hnat _) htimeout,
      Section.keyOr_eq_some (hnat _) hattempts, Section.keyOr_eq_some (hnat _) hdelay⟩

lemma poller_told {part : Option PollerSection}
    (h : readSection d sections .poller (Section.poller? d) = some part) :
    told d sections .poller "poll_interval_ms" (d.natural? UInt64.size) =
        part.bind (·.pollInterval) ∧
      told d sections .poller "collection_timeout_ms" (d.natural? UInt64.size) =
        part.bind (·.collectionTimeout) := by
  rcases Section.readSection_eq_some h with ⟨hinside, rfl⟩ | ⟨keys, part, hinside, hread, rfl⟩
  · simp [told, hinside]
  · simp only [Section.poller?, Option.bind_eq_bind, Option.bind_eq_some_iff, Option.pure_def,
      Option.some.injEq] at hread
    obtain ⟨_, hinterval, _, htimeout, rfl⟩ := hread
    simp [told, hinside, Section.optionalKey_eq_some hinterval,
      Section.optionalKey_eq_some htimeout]

lemma collector_told (hnull : d.NullIsNone) {part : Option CollectorSettings}
    (h : readSection d sections .collector (Section.collector? d) = some part) :
    (told d sections .collector "strategy" (Section.strategy? d)).getD
        ServiceConfig.usual.strategy =
        (part.map (·.strategy)).getD ServiceConfig.usual.strategy ∧
      (told d sections .collector "read_recovery_ms" (d.natural? UInt64.size)).getD
        ServiceConfig.usual.recovery =
        (part.map (·.recovery)).getD ServiceConfig.usual.recovery := by
  have hstrategy (v : V) (hv : d.isNull v = true) : Section.strategy? d v = none := by
    rw [Section.strategy?, hnull.choice hv]
    rfl
  rcases Section.readSection_eq_some h with ⟨hinside, rfl⟩ | ⟨keys, part, hinside, hread, rfl⟩
  · simp [told, hinside]
  · simp only [Section.collector?, Option.bind_eq_bind, Option.bind_eq_some_iff, Option.pure_def,
      Option.some.injEq] at hread
    obtain ⟨_, hname, _, hrecovery, rfl⟩ := hread
    simp only [told, hinside, Option.bind_some, Option.map_some, Option.getD_some]
    exact ⟨Section.keyOr_eq_some hstrategy hname,
      Section.keyOr_eq_some (fun _ => hnull.natural _) hrecovery⟩

lemma configurer_told {part : Option ConfigurerSection}
    (h : readSection d sections .configurer (Section.configurer? d) = some part) :
    told d sections .configurer "cache_ttl_secs" (d.natural? UInt64.size) =
      part.bind (·.cacheTtl) := by
  rcases Section.readSection_eq_some h with ⟨hinside, rfl⟩ | ⟨keys, part, hinside, hread, rfl⟩
  · simp [told, hinside]
  · simp only [Section.configurer?, Option.bind_eq_bind, Option.bind_eq_some_iff, Option.pure_def,
      Option.some.injEq] at hread
    obtain ⟨_, httl, rfl⟩ := hread
    simp [told, hinside, Section.optionalKey_eq_some httl]

lemma publisher_told {part : Option PublisherSection}
    (h : readSection d sections .publisher (Section.publisher? d) = some part) :
    told d sections .publisher "topic_prefix" d.text? = part.bind (·.topicRoot) := by
  rcases Section.readSection_eq_some h with ⟨hinside, rfl⟩ | ⟨keys, part, hinside, hread, rfl⟩
  · simp [told, hinside]
  · simp only [Section.publisher?, Option.bind_eq_bind, Option.bind_eq_some_iff, Option.pure_def,
      Option.some.injEq] at hread
    obtain ⟨_, hroot, rfl⟩ := hread
    simp [told, hinside, Section.optionalKey_eq_some hroot]

/-- **What a file leaves of the usual values** are those of the settings that it does not give, also
in a section that it has. -/
theorem ofConfig_onto (hnull : d.NullIsNone) {document : V} {file : FileConfig}
    (h : ofDocument? d document = some file) (s : ServiceSetting) :
    s.ofConfig (file.onto .usual) = (s.ofDocument d document).getD (s.ofConfig .usual) := by
  simp only [ofDocument?, Option.bind_eq_bind, Option.bind_eq_some_iff, Option.pure_def,
    Option.some.injEq] at h
  obtain ⟨sections, hsections, device, hdevice, serial, hserial, poller, hpoller, collector,
    hcollector, configurer, hconfigurer, publisher, hpublisher, rfl⟩ := h
  have htold : s.ofDocument d document = told d sections s.form s.key (s.readKey d) := by
    simp [ServiceSetting.ofDocument, told, hsections]
  obtain ⟨henabled, hid, htype⟩ := device_told hdevice
  obtain ⟨hport, hbaud, hslave, htimeout, hattempts, hdelay⟩ := serial_told hnull hserial
  obtain ⟨hinterval, hdeadline⟩ := poller_told hpoller
  obtain ⟨hstrategy, hrecovery⟩ := collector_told hnull hcollector
  rw [htold]
  cases s with
  | enabled => exact congrArg (Option.getD · _) henabled.symm
  | deviceId => exact congrArg (Option.getD · _) hid.symm
  | controllerType => exact congrArg (Option.getD · _) htype.symm
  | serialPort => exact hport.symm
  | baudRate => exact hbaud.symm
  | slaveId => exact hslave.symm
  | timeout => exact htimeout.symm
  | retryAttempts => exact hattempts.symm
  | retryDelay => exact hdelay.symm
  | pollInterval => exact congrArg (Option.getD · _) hinterval.symm
  | collectionTimeout => exact congrArg (Option.getD · _) hdeadline.symm
  | strategy => exact hstrategy.symm
  | recovery => exact hrecovery.symm
  | cacheTtl => exact congrArg (Option.getD · _) (configurer_told hconfigurer).symm
  | topicRoot => exact congrArg (Option.getD · _) (publisher_told hpublisher).symm

end FileConfig

/-! ## Files and variables -/

/-- What a text of a kind gives for a setting. -/
def FileKind.given (kind : FileKind) (text : String) (s : ServiceSetting) : Option s.Value :=
  match kind with
  | json => (Json.ofText? text).bind fun v => s.ofDocument Dialect.json v
  | toml => (Toml.ofText? text).bind fun entries =>
      s.ofDocument Dialect.toml (.table .header entries)

lemma FileKind.ofConfig_onto {kind : FileKind} {text : String} {file : FileConfig}
    (h : kind.config? text = some file) (s : ServiceSetting) :
    s.ofConfig (file.onto .usual) = (kind.given text s).getD (s.ofConfig .usual) := by
  cases kind with
  | json =>
      obtain ⟨v, hv, hfile⟩ := Option.bind_eq_some_iff.mp h
      simp only [given, hv, Option.bind_some]
      exact FileConfig.ofConfig_onto Dialect.json_nullIsNone hfile s
  | toml =>
      obtain ⟨entries, hentries, hfile⟩ := Option.bind_eq_some_iff.mp h
      simp only [given, hentries, Option.bind_some]
      exact FileConfig.ofConfig_onto Dialect.toml_nullIsNone hfile s

namespace ServiceSetting

/-- What the configuration file, if there is one, gives for a setting. -/
def ofFile (path : Option String) (env : Environment) (files : Files) (s : ServiceSetting) :
    Option s.Value := do
  let file ← configPath? path env
  let text ← fileText? files file
  (FileKind.ofPath file).given text s

/-- A configuration is told by its settings. -/
lemma eq_of_ofConfig {c c' : ServiceConfig}
    (h : ∀ s : ServiceSetting, s.ofConfig c = s.ofConfig c') : c = c' := by
  obtain ⟨_, ⟨_, _⟩, ⟨_, _, _, _, _, _⟩, _, _, _, _, _, _⟩ := c
  obtain ⟨_, ⟨_, _⟩, ⟨_, _, _, _, _, _⟩, _, _, _, _, _, _⟩ := c'
  simp only [ServiceConfig.mk.injEq, DeviceIdentity.mk.injEq, LinkSettings.mk.injEq]
  exact ⟨h .enabled, ⟨h .deviceId, h .controllerType⟩, ⟨h .serialPort, h .baudRate, h .slaveId,
    h .timeout, h .retryAttempts, h .retryDelay⟩, h .pollInterval, h .collectionTimeout,
    h .strategy, h .recovery, h .cacheTtl, h .topicRoot⟩

end ServiceSetting

lemma baseConfig_eq_ok {path : Option String} {env : Environment} {files : Files}
    {c : ServiceConfig} (h : baseConfig path env files = .ok c) (s : ServiceSetting) :
    s.ofConfig c = (s.ofFile path env files).getD (s.ofConfig .usual) := by
  simp only [baseConfig, fileConfig] at h
  simp only [ServiceSetting.ofFile]
  split at h
  · next file hfile =>
      rw [hfile]
      split at h
      · cases h
      · next text htext =>
          split at h
          · next sections hsections =>
              obtain rfl := Except.ok.inj h
              simp only [htext, Option.bind_eq_bind, Option.bind_some]
              exact FileKind.ofConfig_onto hsections s
          · cases h
  · next hfile =>
      obtain rfl := Except.ok.inj h
      simp [hfile]

lemma exists_baseConfig_iff {path : Option String} {env : Environment} {files : Files} :
    (∃ c, baseConfig path env files = .ok c) ↔
      ∀ file, configPath? path env = some file → ∃ text sections,
        fileText? files file = some text ∧
          (FileKind.ofPath file).config? text = some sections := by
  simp only [baseConfig, fileConfig]
  split
  · next file hfile =>
      split
      · next htext => simp [hfile, htext, Except.map]
      · next text htext =>
          split
          · next sections hsections => simp [hfile, htext, hsections, Except.map]
          · next hsections => simp [hfile, htext, hsections, Except.map]
  · next hfile => simp [hfile]

/-- Of the variables only one has a part in the file. -/
lemma baseConfig_congr {path : Option String} {env env' : Environment} {files : Files}
    (h : env' "SOLAR_CONFIG" = env "SOLAR_CONFIG") :
    baseConfig path env' files = baseConfig path env files := by
  simp only [baseConfig, configPath?, h]

lemma loadConfig_eq_ok {path : Option String} {env : Environment} {files : Files}
    {c : ServiceConfig} (h : loadConfig path env files = .ok c) :
    ∃ base, baseConfig path env files = .ok base ∧
      c = (ConfigLayer.ofEnvironment env).onto base := by
  rw [loadConfig] at h
  cases hbase : baseConfig path env files with
  | error fault =>
      rw [hbase] at h
      cases h
  | ok base =>
      rw [hbase] at h
      exact ⟨base, rfl, (Except.ok.inj h).symm⟩

/-- A variable that says nothing about its setting may as well be unset. -/
lemma loadConfig_update {path : Option String} {env : Environment} {files : Files}
    {s : ServiceSetting} (h : s.ofEnvironment env = none) :
    loadConfig path (Function.update env s.variableName none) files =
      loadConfig path env files := by
  have hsame (s' : ServiceSetting) :
      s'.ofEnvironment (Function.update env s.variableName none) = s'.ofEnvironment env := by
    by_cases hs : s' = s
    · subst hs
      rw [h, ServiceSetting.ofEnvironment, Function.update_self, Option.bind_none]
    · have hname : s'.variableName ≠ s.variableName :=
        mt (ServiceSetting.variableName_injective ·) hs
      rw [ServiceSetting.ofEnvironment, Function.update_of_ne hname, ServiceSetting.ofEnvironment]
  have hlayer : (ConfigLayer.ofEnvironment (Function.update env s.variableName none)).onto =
      (ConfigLayer.ofEnvironment env).onto := by
    funext base
    refine ServiceSetting.eq_of_ofConfig fun s' => ?_
    rw [ServiceSetting.ofConfig_environment, ServiceSetting.ofConfig_environment, hsame]
  rw [loadConfig, loadConfig, hlayer,
    baseConfig_congr (Function.update_of_ne s.variableName_ne_config.symm none env)]

/-- **Each setting has its own layers.**  There is a configuration unless a file is named, by the
argument or else by the environment, that cannot be read or says nothing of the right form.  Each
of its settings is the value of its own variable if that has one, or else what the file gives for
it, or else the usual value.  So environments that name the same file fail alike, and a setting is
the same in all that agree on its variable; and a variable without a value is as good as none. -/
theorem settings_layered (path : Option String) (env : Environment) (files : Files) :
    ((∃ c, loadConfig path env files = .ok c) ↔
      ∀ file, (path <|> env "SOLAR_CONFIG") = some file → ∃ text sections,
        fileText? files file = some text ∧
          (FileKind.ofPath file).config? text = some sections) ∧
      (∀ c, loadConfig path env files = .ok c → ∀ s : ServiceSetting,
        s.ofConfig c = (s.ofEnvironment env).getD
          ((s.ofFile path env files).getD (s.ofConfig .usual))) ∧
      (∀ env', env' "SOLAR_CONFIG" = env "SOLAR_CONFIG" →
        (∀ fault, loadConfig path env' files = .error fault ↔
          loadConfig path env files = .error fault) ∧
        ∀ c c', loadConfig path env files = .ok c → loadConfig path env' files = .ok c' →
          ∀ s : ServiceSetting, env' s.variableName = env s.variableName →
            s.ofConfig c' = s.ofConfig c) ∧
      ∀ s : ServiceSetting, s.ofEnvironment env = none →
        loadConfig path (Function.update env s.variableName none) files =
          loadConfig path env files := by
  refine ⟨?_, ?_, ?_, fun s => loadConfig_update⟩
  · refine Iff.trans ?_ exists_baseConfig_iff
    constructor
    · rintro ⟨c, hc⟩
      obtain ⟨base, hbase, -⟩ := loadConfig_eq_ok hc
      exact ⟨base, hbase⟩
    · rintro ⟨base, hbase⟩
      exact ⟨_, by rw [loadConfig, hbase]; rfl⟩
  · intro c hc s
    obtain ⟨base, hbase, rfl⟩ := loadConfig_eq_ok hc
    rw [ServiceSetting.ofConfig_environment, baseConfig_eq_ok hbase]
  · intro env' hnamed
    have hbases : baseConfig path env' files = baseConfig path env files :=
      baseConfig_congr hnamed
    constructor
    · intro fault
      rw [loadConfig, loadConfig, hbases]
      cases baseConfig path env files <;> simp [Except.map]
    · intro c c' hc hc' s hs
      obtain ⟨base, hbase, rfl⟩ := loadConfig_eq_ok hc
      obtain ⟨base', hbase', rfl⟩ := loadConfig_eq_ok hc'
      obtain rfl := Except.ok.inj (hbase.symm.trans (hbases.symm.trans hbase'))
      rw [ServiceSetting.ofConfig_environment, ServiceSetting.ofConfig_environment,
        ServiceSetting.ofEnvironment, hs, ServiceSetting.ofEnvironment]

namespace Shed

/-- A file that has a section about the serial line with one key. -/
def files : Files := fun path =>
  if path = "shed.json" then
    some ("\x7b\"device\": \x7b\"device_id\": \"shed\"\x7d, "
      ++ "\"serial\": \x7b\"baud_rate\": 9600\x7d\x7d").toUTF8
  else none

/-- Variables that name this file, one with a value and one without. -/
def environment : Environment := fun name =>
  List.lookup name [("SOLAR_CONFIG", "shed.json"), ("SOLAR_BAUD_RATE", "fast"),
    ("SOLAR_POLL_INTERVAL_MS", "15000")]

/-- What they make of the usual values. -/
def config : ServiceConfig :=
  { ServiceConfig.usual with
    identity := ⟨"shed", "epever"⟩
    link := { LinkSettings.usual with baudRate := 9600 }
    pollInterval := 15000 }

end Shed

/-- The baud rate comes from the file, since its variable has no value; the port beside it in the
same section has its usual value. -/
theorem shed_layers :
    loadConfig none Shed.environment Shed.files = .ok Shed.config ∧
      (∀ s : ServiceSetting, s.ofConfig Shed.config = (s.ofEnvironment Shed.environment).getD
        ((s.ofFile none Shed.environment Shed.files).getD (s.ofConfig .usual))) ∧
      ServiceSetting.baudRate.ofEnvironment Shed.environment = none ∧
      loadConfig none (Function.update Shed.environment "SOLAR_BAUD_RATE" none) Shed.files =
        .ok Shed.config := by
  have hload : loadConfig none Shed.environment Shed.files = .ok Shed.config := by rfl
  have hunset : ServiceSetting.baudRate.ofEnvironment Shed.environment = none := by rfl
  obtain ⟨-, hlayers, -, hupdate⟩ := settings_layered none Shed.environment Shed.files
  exact ⟨hload, hlayers _ hload, hunset, (hupdate .baudRate hunset).trans hload⟩

end ChargeController
