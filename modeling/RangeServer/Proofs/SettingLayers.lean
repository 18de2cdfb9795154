import Mathlib
import RangeServer.Proofs.SettingConversions

/-!
# Layers of settings

Settings come from three layers: the environment, the settings file, and what holds if nothing is
said. For orderly sources the layers act on each setting apart from all others. The value of a
setting is what the one of the environment is taken for if that says the setting, else the one of
the file, else the default; what a lower layer says about a setting does not matter, whatever its
type. Loading fails exactly if one of the values that count is taken for nothing. All this holds in
whatever order the forms of settings files are tried, and however the forms that are not read here
are read.
-/

namespace RangeServer

namespace SettingKey

/-- What a setting is if neither the file nor the environment says it. -/
def default? : SettingKey → Option PlainSetting
  | host => some (.text "0.0.0.0")
  | port => some (.integer 8000)
  | level => some (.text "info")
  | accessLog => some (.boolean true)
  | accessLogFormat => some (.text "combined")
  | keepAliveTimeout => some (.integer 75)
  | readTimeout => some (.integer 30)
  | writeTimeout => some (.integer 30)
  | startPastEnd => some (.text "unsatisfiable")
  | workers | accessLogFile | errorLogFile | maxConnections => none

theorem names_text (key : SettingKey) : (KeyPath.names key.text).map Case.lower = key.path := by
  have groupPlain : KeyPath.IsPlain key.group.key :=
    isPlain_of_mem_path (List.mem_cons_self : key.group.key ∈ key.path)
  have namePlain : KeyPath.IsPlain key.name :=
    isPlain_of_mem_path (List.mem_cons_of_mem _ List.mem_cons_self : key.name ∈ key.path)
  simp [KeyPath.names, text, KeyPath.read?_pair groupPlain namePlain, KeyStep.title,
    Case.lower_of_isPlain groupPlain, Case.lower_of_isPlain namePlain, path]

theorem mem_defaults_iff {text : String} {value : PlainSetting} :
    (text, value) ∈ Settings.defaults ↔
      ∃ key : SettingKey, key.default? = some value ∧ text = key.text := by
  constructor
  · intro mem
    simp only [Settings.defaults, List.mem_cons, Prod.mk.injEq, List.not_mem_nil, or_false] at mem
    rcases mem with ⟨rfl, rfl⟩ | ⟨rfl, rfl⟩ | ⟨rfl, rfl⟩ | ⟨rfl, rfl⟩ | ⟨rfl, rfl⟩ | ⟨rfl, rfl⟩ |
      ⟨rfl, rfl⟩ | ⟨rfl, rfl⟩ | ⟨rfl, rfl⟩
    · exact ⟨.host, rfl, rfl⟩
    · exact ⟨.port, rfl, rfl⟩
    · exact ⟨.level, rfl, rfl⟩
    · exact ⟨.accessLog, rfl, rfl⟩
    · exact ⟨.accessLogFormat, rfl, rfl⟩
    · exact ⟨.keepAliveTimeout, rfl, rfl⟩
    · exact ⟨.readTimeout, rfl, rfl⟩
    · exact ⟨.writeTimeout, rfl, rfl⟩
    · exact ⟨.startPastEnd, rfl, rfl⟩
  · rintro ⟨key, isDefault, rfl⟩
    cases key <;> cases isDefault <;>
      simp [Settings.defaults, text, group, SettingKey.name, SettingsSection.key]

end SettingKey

namespace Settings

open Setting

/-! ## The first layer -/

/-- The fields of the first layer. -/
def defaultFields : List (String × Setting) :=
  defaults.map fun (key, value) => (key, .plain none value)

theorem mem_sourceLeaves_defaultFields {leaf : List String × Setting} :
    leaf ∈ sourceLeaves defaultFields ↔
      ∃ (key : SettingKey) (value : PlainSetting), key.default? = some value ∧
        leaf = (key.path, .plain none value) := by
  simp only [sourceLeaves, defaultFields, List.mem_flatMap, List.mem_map, Prod.exists,
    SettingKey.mem_defaults_iff]
  constructor
  · rintro ⟨_, _, ⟨_, value, ⟨key, isDefault, rfl⟩, isField⟩, path, setting, isLeaf, rfl⟩
    cases isField
    simp only [leaves, List.mem_singleton, Prod.mk.injEq] at isLeaf
    rcases isLeaf with ⟨rfl, rfl⟩
    exact ⟨key, value, isDefault, by rw [List.append_nil, key.names_text]⟩
  · rintro ⟨key, value, isDefault, rfl⟩
    refine ⟨key.text, .plain none value, ⟨key.text, value, ⟨key, isDefault, rfl⟩, rfl⟩,
      [], .plain none value, by simp [leaves], ?_⟩
    rw [List.append_nil, key.names_text]

theorem orderly_defaultFields : Orderly defaultFields where
  leaf := by
    intro leaf mem
    rcases mem_sourceLeaves_defaultFields.mp mem with ⟨key, value, -, rfl⟩
    exact .known key
  once := by
    intro key first second firstMem secondMem
    rcases mem_sourceLeaves_defaultFields.mp firstMem with ⟨firstKey, value, isDefault, isFirst⟩
    rcases mem_sourceLeaves_defaultFields.mp secondMem with ⟨secondKey, other, isOther, isSecond⟩
    simp only [Prod.mk.injEq] at isFirst isSecond
    rcases isFirst with ⟨samePath, rfl⟩
    rcases isSecond with ⟨sameOther, rfl⟩
    cases SettingKey.path_injective samePath
    cases SettingKey.path_injective sameOther
    rw [isDefault] at isOther
    cases isOther
    rfl

theorem said?_defaultFields (key : SettingKey) :
    said? defaultFields key = key.default?.map (.plain none) := by
  apply Option.ext
  intro setting
  rw [orderly_defaultFields.said?_eq_some_iff, mem_sourceLeaves_defaultFields]
  simp only [Option.map_eq_some_iff, Prod.mk.injEq]
  constructor
  · rintro ⟨other, value, isDefault, samePath, rfl⟩
    cases SettingKey.path_injective samePath
    exact ⟨value, isDefault, rfl⟩
  · rintro ⟨value, isDefault, rfl⟩
    exact ⟨key, value, isDefault, rfl, rfl⟩

/-! ## All layers -/

/-- What counts about a setting: what the environment says, else the file, else the default. -/
def winning (file environment : List (String × Setting)) (key : SettingKey) : Option Setting :=
  (said? environment key).or ((said? file key).or (key.default?.map (.plain none)))

variable {file environment : List (String × Setting)}

/-- What the file and the environment say together. -/
def saidTree (file environment : List (String × Setting)) : Setting :=
  mergeFields (environment.map spread) (mergeFields (file.map spread) .empty)

section

variable (fileOrderly : Orderly file) (environmentOrderly : Orderly environment)

include fileOrderly environmentOrderly

theorem at?_saidTree (key : SettingKey) :
    (saidTree file environment).at? key.path = (said? environment key).or (said? file key) := by
  rw [saidTree, at?_mergeFields_of_orderly environmentOrderly,
    at?_mergeFields_of_orderly fileOrderly]
  have nothingBefore : Setting.empty.at? key.path = none := rfl
  rw [nothingBefore, Option.or_none]

theorem tidy_saidTree : (saidTree file environment).Tidy KeyPath.IsPlain :=
  tidy_mergeFields _ environmentOrderly.isPlain (tidy_mergeFields _ fileOrderly.isPlain tidy_empty)

theorem isGroup_at?_saidTree (group : SettingsSection) :
    ∀ setting, (saidTree file environment).at? [group.key] = some setting → setting.IsGroup := by
  refine isGroup_at?_of_orderly environmentOrderly group ?_
  refine isGroup_at?_of_orderly fileOrderly group ?_
  intro setting found
  cases found

theorem not_isGroup_at?_saidTree (key : SettingKey) {setting : Setting}
    (found : (saidTree file environment).at? key.path = some setting) : ¬setting.IsGroup := by
  rw [at?_saidTree fileOrderly environmentOrderly, Option.or_eq_some_iff] at found
  rcases found with isSaid | ⟨-, isSaid⟩
  · rcases environmentOrderly.exists_plain isSaid with ⟨origin, value, rfl⟩
    exact id
  · rcases fileOrderly.exists_plain isSaid with ⟨origin, value, rfl⟩
    exact id

/-- In the tree of all layers stands in the place of each setting what counts about it. -/
theorem at?_layers :
    ∃ tree, layers file environment = .ok tree ∧
      ∀ key : SettingKey, tree.at? key.path = winning file environment key := by
  have tidy := tidy_saidTree fileOrderly environmentOrderly
  refine ⟨mergeFields (saidTree file environment).asGroup.2
    (mergeFields (defaultFields.map spread) .empty), ?_, ?_⟩
  · have isDefault : defaultLayer = .ok (mergeFields (defaultFields.map spread) .empty) :=
      orderly_defaultFields.layer_eq .empty
    rw [layers, fileOrderly.layer_eq, ok_bind, environmentOrderly.layer_eq, ok_bind, isDefault,
      ok_bind]
    exact layer_eq_of_isPlain tidy.asGroup.2.1 _
  · intro key
    have isDefault : (mergeFields (defaultFields.map spread) .empty).at? key.path =
        key.default?.map (.plain none) := by
      rw [at?_mergeFields_of_orderly orderly_defaultFields, said?_defaultFields]
      exact Option.or_none
    rw [SettingKey.path] at isDefault ⊢
    rw [at?_over_of_tidy tidy (fun _ => Case.lower_of_isPlain)
      (isGroup_at?_saidTree fileOrderly environmentOrderly key.group)
      (fun _ => not_isGroup_at?_saidTree fileOrderly environmentOrderly key), isDefault,
      ← SettingKey.path, at?_saidTree fileOrderly environmentOrderly, Option.or_assoc]
    rfl

end

/-! ## Loading -/

/-- Whether some fields are those of a settings file: it is a table of these, or there is no file
and there are no fields. -/
inductive FileHolds (forms : FileForms) (tree : FileTree) (path : String) :
    List (String × Setting) → Prop where
  | missing (notFound : SettingsFile.find? forms tree (.ofText path) = none) :
      FileHolds forms tree path []
  | table {found : SettingsFile} {fields : List (String × Setting)}
      (isFound : SettingsFile.find? forms tree (.ofText path) = some found)
      (isTable : found.fields forms = .ok fields) : FileHolds forms tree path fields

theorem isSome_winning_firstKey (file environment : List (String × Setting))
    (group : SettingsSection) : (winning file environment group.firstKey).isSome := by
  have isDefault : group.firstKey.default?.isSome := by
    cases group <;> rfl
  simp [winning, isDefault]

/-- What counts about a setting, which is nothing if no layer says it. -/
def counting (file environment : List (String × Setting)) (key : SettingKey) : Setting :=
  (winning file environment key).getD Setting.nothing

/-- The value of a setting is what the setting that counts is taken for. -/
theorem value_winning_eq_ok_iff (key : SettingKey) {value : key.Value} :
    key.value (winning file environment key) = .ok value ↔
      key.Means (counting file environment key) value := by
  rw [counting, ← key.convert_eq_ok_iff]
  cases isWinning : winning file environment key with
  | some setting => rfl
  | none =>
      have noDefault : key.default? = none := by
        simp only [winning, Option.or_eq_none_iff, Option.map_eq_none_iff] at isWinning
        exact isWinning.2.2
      cases key with
      | workers => rfl
      | accessLogFile => rfl
      | errorLogFile => rfl
      | maxConnections => rfl
      | _ => cases noDefault

theorem exists_value_winning_eq_error_iff (key : SettingKey) :
    (∃ fault, key.value (winning file environment key) = .error fault) ↔
      ∀ value, ¬key.Means (counting file environment key) value := by
  simp only [← value_winning_eq_ok_iff]
  cases key.value (winning file environment key) <;> simp

theorem load_eq_assemble {forms : FileForms} {tree : FileTree} {path : String}
    {entries : List (String × String)} (held : FileHolds forms tree path file)
    (fileOrderly : Orderly file) (environmentOrderly : Orderly (Environment.fields entries)) :
    load forms tree path entries =
      .ok (assemble (winning file (Environment.fields entries))) := by
  rcases at?_layers fileOrderly environmentOrderly with ⟨layered, isLayered, stands⟩
  have isRead := read_eq_assemble stands (isSome_winning_firstKey file _)
  cases held with
  | missing notFound => simp [load, notFound, isLayered, ok_bind, isRead, pure, Except.pure]
  | table isFound isTable =>
      simp [load, isFound, isTable, isLayered, ok_bind, isRead, pure, Except.pure]

/-- Each setting is on its own what the environment says, else what the file says, else its default,
as far as that is taken for a value of its type. Loading fails exactly if one of the settings that
count is taken for nothing, and nothing but these settings matters. -/
theorem load_by_layers {forms : FileForms} {tree : FileTree} {path : String}
    {entries : List (String × String)} (held : FileHolds forms tree path file)
    (fileOrderly : Orderly file) (environmentOrderly : Orderly (Environment.fields entries)) :
    load forms tree path entries =
        .ok (assemble (winning file (Environment.fields entries))) ∧
      (∀ settings, load forms tree path entries = .ok (.ok settings) ↔
        ∀ key : SettingKey,
          key.Means (counting file (Environment.fields entries) key) (settings.get key)) ∧
      ((∃ fault, load forms tree path entries = .ok (.error fault)) ↔
        ∃ key : SettingKey,
          ∀ value, ¬key.Means (counting file (Environment.fields entries) key) value) := by
  have outcome := load_eq_assemble held fileOrderly environmentOrderly
  simp only [outcome, Except.ok.injEq, assemble_eq_ok_iff, exists_assemble_eq_error_iff,
    exists_value_winning_eq_error_iff, value_winning_eq_ok_iff, true_and, implies_true]

/-- A port that is no number does no harm in a file where the environment says another, and neither
does a setting that is not known. Numbers, truth values and the policy are written as texts, the
policy in capitals. -/
theorem load_by_layers_overridden_port :
    let text := "[Server]\nport = \"none\"\nworkers = 4\n"
    let tree : FileTree := ⟨[(["fixture.toml"], .file (Utf8.encode text))], []⟩
    let entries := [("FIXTURE_SERVER__PORT", "9000"), ("Fixture_Logging__Access_Log", "off"),
      ("FIXTURE_HTTP__START_PAST_END", "COLLAPSE"), ("FIXTURE_COLOUR", "blue")]
    load .plain tree "fixture" entries =
      .ok (.ok ⟨⟨"0.0.0.0", 9000, some 4⟩, ⟨"info", false, "combined", none, none⟩,
        ⟨75, 30, 30, none⟩, ⟨.collapse⟩⟩) := by
  intro text tree entries
  let file : List (String × Setting) := [("Server", .group (some "fixture.toml")
    [("port", .plain (some "fixture.toml") (.text "none")),
      ("workers", .plain (some "fixture.toml") (.integer 4))])]
  have held : FileHolds .plain tree "fixture" file := by
    have isFound : SettingsFile.find? .plain tree (.ofText "fixture") =
        some ⟨.toml, "fixture.toml", Utf8.encode text⟩ := by
      cbv
    have isText : Utf8.decode? (Utf8.encode text) = some text := by cbv
    have isParsed : Toml.parse? text = some (.table
        [("Server", .table [("port", .string "none"), ("workers", .integer 4)])]) := by
      cbv
    have isTable : SettingsFile.fields .plain ⟨.toml, "fixture.toml", Utf8.encode text⟩ =
        .ok file := by
      simp only [SettingsFile.fields, isText, FileForms.read?, isParsed]
      cbv
    exact .table isFound isTable
  have fileLeaves : sourceLeaves file =
      [(["server", "port"], .plain (some "fixture.toml") (.text "none")),
        (["server", "workers"], .plain (some "fixture.toml") (.integer 4))] := by
    cbv
  have fileOrderly : Orderly file := by
    refine orderly_of_nodup fileLeaves (by decide) ?_
    simp only [List.forall_mem_cons, List.not_mem_nil, false_imp_iff, implies_true, and_true]
    exact ⟨.known .port, .known .workers⟩
  have entryLeaves : sourceLeaves (Environment.fields entries) =
      [(["server", "port"], .plain (some "the environment") (.text "9000")),
        (["logging", "access_log"], .plain (some "the environment") (.text "off")),
        (["http", "start_past_end"], .plain (some "the environment") (.text "COLLAPSE")),
        (["colour"], .plain (some "the environment") (.text "blue"))] := by
    cbv
  have colourPlain : ∀ name ∈ ["colour"], KeyPath.IsPlain name := by
    simp [KeyPath.IsPlain, KeyPath.isPlainChar, KeyPath.isNameChar]
  have colourApart : ∀ key : SettingKey, ¬["colour"] <+: key.path ∧ ¬key.path <+: ["colour"] := by
    intro key
    cases key <;> decide
  have entriesOrderly : Orderly (Environment.fields entries) := by
    refine orderly_of_nodup entryLeaves (by decide) ?_
    simp only [List.forall_mem_cons, List.not_mem_nil, false_imp_iff, implies_true, and_true]
    exact ⟨.known .port, .known .accessLog, .known .startPastEnd,
      .unrelated colourPlain colourApart⟩
  refine ((load_by_layers held fileOrderly entriesOrderly).2.1 _).mpr ?_
  intro key
  rw [counting, winning, said?, said?, entryLeaves, fileLeaves, ← key.convert_eq_ok_iff]
  cases key <;> rfl

/-- The same fields in a JSON file. -/
example :
    FileForms.plain.read? .json "fixture.json"
        "\x7b\"Server\": \x7b\"port\": \"none\", \"workers\": 4\x7d\x7d" =
      some [("Server", .group (some "fixture.json")
        [("port", .plain (some "fixture.json") (.text "none")),
          ("workers", .plain (some "fixture.json") (.integer 4))])] := by
  cbv

end Settings

end RangeServer
