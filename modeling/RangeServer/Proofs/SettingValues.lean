import Mathlib
import RangeServer.Proofs.SettingSources
import RangeServer.Settings.Load

/-!
# Settings setting by setting

Settings are read section by section from a tree. `Settings.assemble` puts them together setting by
setting, from what stands in the place of each, and where the sections of a tree are groups both are
the same (`Settings.read_eq_assemble`), with the same error if there is one. So each setting is read
on its own: what stands in its place, converted to its type.
-/

namespace RangeServer

namespace SettingKey

/-- The type of a setting. -/
@[reducible]
def Value : SettingKey → Type
  | host | level | accessLogFormat => String
  | port => UInt16
  | workers | maxConnections => Option UInt64
  | accessLog => Bool
  | accessLogFile | errorLogFile => Option String
  | keepAliveTimeout | readTimeout | writeTimeout => UInt64
  | startPastEnd => PastEndPolicy

/-- How a setting is read that is in the place of a key. -/
def reader : (key : SettingKey) → String → Setting → Except SettingsError key.Value
  | host | level | accessLogFormat => Setting.toText
  | port => Setting.toWord16
  | workers | maxConnections => fun place setting => setting.toOption Setting.toWord place
  | accessLog => Setting.toBool
  | accessLogFile | errorLogFile => fun place setting => setting.toOption Setting.toText place
  | keepAliveTimeout | readTimeout | writeTimeout => Setting.toWord
  | startPastEnd => Setting.toPolicy

/-- What is said about a setting, converted to its type. -/
def convert (key : SettingKey) (setting : Setting) : Except SettingsError key.Value :=
  key.reader key.text setting

/-- What a setting is if nothing at all is said about it. -/
def unsaid : (key : SettingKey) → Except SettingsError key.Value
  | workers | maxConnections => .ok none
  | accessLogFile | errorLogFile => .ok none
  | accessLogFormat => .ok "combined"
  | startPastEnd => .ok .standard
  | key => .error (.missingSetting key.name)

/-- The value of a setting, given what is said about it. -/
def value (key : SettingKey) : Option Setting → Except SettingsError key.Value
  | some setting => key.convert setting
  | none => key.unsaid

end SettingKey

namespace SectionParts

variable (key : SettingKey) (fields : List (String × Setting)) (position : Nat)

theorem required_named (unsaid : key.unsaid = .error (.missingSetting key.name)) :
    (named fields).required key.group position key.name key.reader =
      key.value (fields.lookup key.name) := by
  cases found : fields.lookup key.name with
  | none => simp [required, find?, found, SettingKey.value, missing, unsaid]
  | some setting =>
      simp [required, find?, found, SettingKey.value, SettingKey.convert, SettingKey.text]

theorem withDefault_named {default : key.Value} (unsaid : key.unsaid = .ok default) :
    (named fields).withDefault key.group position key.name default key.reader =
      key.value (fields.lookup key.name) := by
  cases found : fields.lookup key.name with
  | none => simp [withDefault, find?, found, SettingKey.value, unsaid]
  | some setting =>
      simp [withDefault, find?, found, SettingKey.value, SettingKey.convert, SettingKey.text]

theorem optional_named {Part : Type} (group : SettingsSection) (name : String)
    (read : String → Setting → Except SettingsError Part) :
    (named fields).optional group position name read =
      (named fields).withDefault group position name none
        fun place setting => setting.toOption read place := by
  cases found : fields.lookup name with
  | none => simp [optional, withDefault, find?, found]
  | some setting => simp [optional, withDefault, find?, found]

end SectionParts

namespace Settings

/-! ## Sections that are groups -/

section

variable (origin : Option String) (fields : List (String × Setting))

theorem readServer_group :
    readServer (.group origin fields) = (do
      return ⟨← SettingKey.host.value (fields.lookup "host"),
        ← SettingKey.port.value (fields.lookup "port"),
        ← SettingKey.workers.value (fields.lookup "workers")⟩) := by
  have host := SectionParts.required_named .host fields 0 rfl
  have port := SectionParts.required_named .port fields 1 rfl
  have workers := SectionParts.withDefault_named .workers fields 2 rfl
  simp only [SettingKey.group, SettingKey.name, SettingKey.reader] at host port workers
  simp only [readServer, SectionParts.ofSetting, ok_bind, SectionParts.optional_named, host, port,
    workers]

theorem readLogging_group :
    readLogging (.group origin fields) = (do
      return ⟨← SettingKey.level.value (fields.lookup "level"),
        ← SettingKey.accessLog.value (fields.lookup "access_log"),
        ← SettingKey.accessLogFormat.value (fields.lookup "access_log_format"),
        ← SettingKey.accessLogFile.value (fields.lookup "access_log_file"),
        ← SettingKey.errorLogFile.value (fields.lookup "error_log_file")⟩) := by
  have level := SectionParts.required_named .level fields 0 rfl
  have accessLog := SectionParts.required_named .accessLog fields 1 rfl
  have format := SectionParts.withDefault_named .accessLogFormat fields 2 rfl
  have accessFile := SectionParts.withDefault_named .accessLogFile fields 3 rfl
  have errorFile := SectionParts.withDefault_named .errorLogFile fields 4 rfl
  simp only [SettingKey.group, SettingKey.name, SettingKey.reader]
    at level accessLog format accessFile errorFile
  simp only [readLogging, SectionParts.ofSetting, ok_bind, level, accessLog, format, accessFile,
    errorFile]

theorem readPerformance_group :
    readPerformance (.group origin fields) = (do
      return ⟨← SettingKey.keepAliveTimeout.value (fields.lookup "keep_alive_timeout"),
        ← SettingKey.readTimeout.value (fields.lookup "read_timeout"),
        ← SettingKey.writeTimeout.value (fields.lookup "write_timeout"),
        ← SettingKey.maxConnections.value (fields.lookup "max_connections")⟩) := by
  have keepAlive := SectionParts.required_named .keepAliveTimeout fields 0 rfl
  have read := SectionParts.required_named .readTimeout fields 1 rfl
  have write := SectionParts.required_named .writeTimeout fields 2 rfl
  have maxConnections := SectionParts.withDefault_named .maxConnections fields 3 rfl
  simp only [SettingKey.group, SettingKey.name, SettingKey.reader]
    at keepAlive read write maxConnections
  simp only [readPerformance, SectionParts.ofSetting, ok_bind, SectionParts.optional_named,
    keepAlive, read, write, maxConnections]

theorem readHttp_group :
    readHttp (.group origin fields) = (do
      return ⟨← SettingKey.startPastEnd.value (fields.lookup "start_past_end")⟩) := by
  have policy := SectionParts.withDefault_named .startPastEnd fields 0 rfl
  simp only [SettingKey.group, SettingKey.name, SettingKey.reader] at policy
  simp only [readHttp, SectionParts.ofSetting, ok_bind, policy]

end

/-! ## All settings -/

/-- The value of a setting among all. -/
def get (settings : Settings) : (key : SettingKey) → key.Value
  | .host => settings.server.host
  | .port => settings.server.port
  | .workers => settings.server.workers
  | .level => settings.logging.level
  | .accessLog => settings.logging.accessLog
  | .accessLogFormat => settings.logging.accessLogFormat
  | .accessLogFile => settings.logging.accessLogFile
  | .errorLogFile => settings.logging.errorLogFile
  | .keepAliveTimeout => settings.performance.keepAliveTimeout
  | .readTimeout => settings.performance.readTimeout
  | .writeTimeout => settings.performance.writeTimeout
  | .maxConnections => settings.performance.maxConnections
  | .startPastEnd => settings.http.startPastEnd

/-- All settings, given what is said about each. -/
def assemble (said : SettingKey → Option Setting) : Except SettingsError Settings := do
  return {
    server := ⟨← SettingKey.host.value (said .host), ← SettingKey.port.value (said .port),
      ← SettingKey.workers.value (said .workers)⟩
    logging := ⟨← SettingKey.level.value (said .level),
      ← SettingKey.accessLog.value (said .accessLog),
      ← SettingKey.accessLogFormat.value (said .accessLogFormat),
      ← SettingKey.accessLogFile.value (said .accessLogFile),
      ← SettingKey.errorLogFile.value (said .errorLogFile)⟩
    performance := ⟨← SettingKey.keepAliveTimeout.value (said .keepAliveTimeout),
      ← SettingKey.readTimeout.value (said .readTimeout),
      ← SettingKey.writeTimeout.value (said .writeTimeout),
      ← SettingKey.maxConnections.value (said .maxConnections)⟩
    http := ⟨← SettingKey.startPastEnd.value (said .startPastEnd)⟩ }

/-- The settings of some values. -/
def ofValues (values : (key : SettingKey) → key.Value) : Settings where
  server := ⟨values .host, values .port, values .workers⟩
  logging := ⟨values .level, values .accessLog, values .accessLogFormat, values .accessLogFile,
    values .errorLogFile⟩
  performance := ⟨values .keepAliveTimeout, values .readTimeout, values .writeTimeout,
    values .maxConnections⟩
  http := ⟨values .startPastEnd⟩

theorem get_ofValues (values : (key : SettingKey) → key.Value) (key : SettingKey) :
    (ofValues values).get key = values key := by
  cases key <;> rfl

variable {said : SettingKey → Option Setting}

/-- Settings are put together if each of them has a value, and of these values. -/
theorem assemble_eq_ok_iff {settings : Settings} :
    assemble said = .ok settings ↔
      ∀ key : SettingKey, key.value (said key) = .ok (settings.get key) := by
  simp only [assemble, bind_eq_ok_iff, pure, Except.pure, Except.ok.injEq]
  constructor
  · rintro ⟨host, isHost, port, isPort, workers, isWorkers, level, isLevel, log, isLog,
      format, isFormat, file, isFile, errors, isErrors, keepAlive, isKeepAlive, read, isRead,
      write, isWrite, most, isMost, policy, isPolicy, rfl⟩ key
    cases key <;> assumption
  · intro all
    exact ⟨_, all .host, _, all .port, _, all .workers, _, all .level, _, all .accessLog,
      _, all .accessLogFormat, _, all .accessLogFile, _, all .errorLogFile,
      _, all .keepAliveTimeout, _, all .readTimeout, _, all .writeTimeout,
      _, all .maxConnections, _, all .startPastEnd, rfl⟩

/-- Settings cannot be put together if one of them has no value. -/
theorem exists_assemble_eq_error_iff :
    (∃ fault, assemble said = .error fault) ↔
      ∃ (key : SettingKey) (fault : SettingsError), key.value (said key) = .error fault := by
  constructor
  · rintro ⟨fault, isFault⟩
    by_contra noFault
    have allValues : ∀ key : SettingKey, ∃ value, key.value (said key) = .ok value := by
      intro key
      cases outcome : key.value (said key) with
      | error fault => exact absurd ⟨key, fault, outcome⟩ noFault
      | ok value => exact ⟨value, rfl⟩
    choose values isValue using allValues
    have isOk : assemble said = .ok (ofValues values) := by
      rw [assemble_eq_ok_iff]
      intro key
      rw [isValue, get_ofValues]
    rw [isOk] at isFault
    cases isFault
  · rintro ⟨key, fault, isFault⟩
    cases outcome : assemble said with
    | error other => exact ⟨other, rfl⟩
    | ok settings =>
        have isValue := assemble_eq_ok_iff.mp outcome key
        rw [isFault] at isValue
        cases isValue

/-! ## Reading a tree -/

/-- A section with a setting in it is a group. -/
theorem exists_group_of_at? {tree : Setting} {first second : String} {setting : Setting}
    (found : tree.at? [first, second] = some setting) :
    ∃ origin fields, tree.asGroup.2.lookup first = some (.group origin fields) := by
  rw [Setting.at?_pair, Option.bind_eq_some_iff] at found
  rcases found with ⟨part, isPart, inPart⟩
  cases part with
  | plain origin value => cases inPart
  | list origin items => cases inPart
  | group origin fields => exact ⟨origin, fields, isPart⟩

/-- The settings of a tree that has all sections are put together from what stands in the place of
each. -/
theorem read_eq_assemble {tree : Setting} (stands : ∀ key, tree.at? key.path = said key)
    (complete : ∀ group : SettingsSection, (said group.firstKey).isSome) :
    read tree.asGroup.2 = assemble said := by
  have sections : ∀ group : SettingsSection, ∃ origin fields,
      tree.asGroup.2.lookup group.key = some (.group origin fields) := by
    intro group
    rcases Option.isSome_iff_exists.mp (complete group) with ⟨setting, isSaid⟩
    have found := (stands group.firstKey).trans isSaid
    rw [SettingKey.path, group.group_firstKey] at found
    exact exists_group_of_at? found
  choose origins fields isSection using sections
  have isSaid : ∀ key : SettingKey, (fields key.group).lookup key.name = said key := by
    intro key
    rw [← stands key, SettingKey.path, Setting.at?_pair, isSection key.group]
    rfl
  have parts : ∀ group,
      part group tree.asGroup.2 = .ok (.group (origins group) (fields group)) := by
    intro group
    rw [part, isSection group]
  simp only [read, parts, ok_bind, readServer_group, readLogging_group, readPerformance_group,
    readHttp_group, assemble, ← isSaid, bind_assoc, pure_bind]
  rfl

end Settings

end RangeServer
