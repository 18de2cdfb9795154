import Mathlib
import RangeServer.Proofs.SettingTrees
import RangeServer.Settings.Error
import RangeServer.Settings.KeyPath

/-!
# What a source of settings says

A source of settings is a list of fields, and the names of its fields are keys: `server.port` is
short for the name `port` in a group `server`. `sourceLeaves` lists all that a source says, with the
path in small letters that leads there, whether the path was written as a key or as groups in
groups.

A server knows thirteen settings, `SettingKey`. A source is orderly if it gives to each of them at
most one plain value, and if all else that it says lies apart from them. Nothing is asked about the
order of an orderly source, about the case of its letters or about how its groups are written.
Putting such a source over a tree sets each known setting that the source says and leaves the
others: `Setting.at?_mergeFields_of_orderly`.
-/

namespace RangeServer

/-! ## Plain names -/

/-- Whether a character may stand in a plain name: a small letter, a digit, a blank, a low line or a
hyphen. -/
def KeyPath.isPlainChar (c : Char) : Bool := isNameChar c && !c.isUpper

/-- Whether a text is a plain name in small letters. -/
def KeyPath.IsPlain (name : String) : Prop :=
  name.toList ≠ [] ∧ ∀ c ∈ name.toList, isPlainChar c = true

instance (name : String) : Decidable (KeyPath.IsPlain name) :=
  inferInstanceAs (Decidable (_ ∧ _))

namespace Case

theorem lowerChar_of_isPlainChar {c : Char} (isPlain : KeyPath.isPlainChar c = true) :
    c ≠ sigma ∧ lowerChar c = [c] := by
  have notUpper : c.isUpper = false := by
    simp only [KeyPath.isPlainChar, Bool.and_eq_true, Bool.not_eq_true'] at isPlain
    exact isPlain.2
  have ascii : c.toNat < 128 := by
    simp only [KeyPath.isPlainChar, KeyPath.isNameChar, notUpper, Char.isAlphanum, Char.isAlpha,
      Char.isLower, Char.isDigit, Bool.or_eq_true, Bool.and_eq_true, decide_eq_true_eq, beq_iff_eq,
      Bool.false_eq_true, false_or, UInt32.le_iff_toNat_le] at isPlain
    rcases isPlain.1 with (((⟨-, le⟩ | ⟨-, le⟩) | rfl) | rfl) | rfl
    · exact Nat.lt_of_le_of_lt le (by decide)
    · exact Nat.lt_of_le_of_lt le (by decide)
    · decide
    · decide
    · decide
  constructor
  · rintro rfl
    exact absurd ascii (by decide)
  · rw [lowerChar, if_pos ascii, Char.toLower_eq_of_not_isUpper (by simp [notUpper])]

theorem lowerAfter_of_isPlainChar (before text : List Char)
    (isPlain : ∀ c ∈ text, KeyPath.isPlainChar c = true) : lowerAfter before text = text := by
  induction text generalizing before with
  | nil => rfl
  | cons c rest ih =>
      rcases lowerChar_of_isPlainChar (isPlain c List.mem_cons_self) with ⟨notSigma, small⟩
      rw [lowerAfter, if_neg notSigma, small,
        ih _ fun other mem => isPlain other (List.mem_cons_of_mem _ mem)]
      rfl

/-- Plain names are in small letters already. -/
theorem lower_of_isPlain {name : String} (isPlain : KeyPath.IsPlain name) : lower name = name := by
  rw [lower, lowerAfter_of_isPlainChar [] _ isPlain.2, String.ofList_toList]

end Case

namespace KeyPath

theorem isNameChar_of_isPlain {text : String} (isPlain : IsPlain text) :
    ∀ c ∈ text.toList, isNameChar c = true := by
  intro c mem
  have plainChar := isPlain.2 c mem
  simp only [isPlainChar, Bool.and_eq_true] at plainChar
  exact plainChar.1

theorem name_of_isPlain {text : String} (isPlain : IsPlain text) (rest : List Char)
    (ended : ∀ c ∈ rest.head?, isNameChar c = false) :
    name (text.toList ++ rest) = some (text, rest) := by
  rcases span_append (isNameChar_of_isPlain isPlain) ended with ⟨taken, dropped⟩
  simp [name, taken, dropped, isPlain.1]

theorem read?_of_isPlain {text : String} (isPlain : IsPlain text) :
    read? text = some ⟨text, []⟩ := by
  have isName := name_of_isPlain isPlain [] (by simp)
  rw [List.append_nil] at isName
  simp [read?, isName, steps]

theorem read?_pair {first second : String} (firstPlain : IsPlain first)
    (secondPlain : IsPlain second) :
    read? (first ++ "." ++ second) = some ⟨first, [.name second]⟩ := by
  have whole : (first ++ "." ++ second).toList = first.toList ++ '.' :: (second.toList ++ []) := by
    simp
  have ended : ∀ c ∈ ('.' :: (second.toList ++ [])).head?, isNameChar c = false := by
    simp only [List.head?_cons, Option.mem_some_iff]
    rintro c rfl
    decide
  have isFirst := name_of_isPlain firstPlain ('.' :: (second.toList ++ [])) ended
  have isSecond := name_of_isPlain secondPlain [] (by simp)
  simp only [read?, whole, isFirst, steps, isSecond, Option.bind_eq_bind, Option.bind_some,
    Option.pure_def, List.length_cons]

end KeyPath

/-! ## Keys -/

/-- What a step of a path is called; a subscript is in brackets. -/
def KeyStep.title : KeyStep → String
  | .name text => text
  | .index place => "[" ++ toString place ++ "]"

/-- A subscript is no plain name. -/
theorem KeyStep.eq_name_of_isPlain {step : KeyStep}
    (isPlain : KeyPath.IsPlain (Case.lower step.title)) : step = .name step.title := by
  cases step with
  | name text => rfl
  | index place =>
      have opens : ('[' : Char) ∈ (Case.lower (KeyStep.index place).title).toList := by
        simp [Case.lower, title, Case.lowerAfter, Case.lowerChar, Case.sigma]
      exact absurd (isPlain.2 _ opens) (by decide)

/-- The names on the path that a key spells; a key that spells none is a name itself. -/
def KeyPath.names (key : String) : List String :=
  match read? key with
  | some path => path.first :: path.rest.map KeyStep.title
  | none => [key]

namespace Setting

/-- What a source says, with the paths that lead there. -/
def sourceLeaves (fields : List (String × Setting)) : List (List String × Setting) :=
  fields.flatMap fun (key, setting) =>
    setting.leaves.map fun leaf => ((KeyPath.names key).map Case.lower ++ leaf.1, leaf.2)

/-- A setting within groups, the outermost of which has the first of some names. -/
def nest (setting : Setting) : List String → Setting
  | [] => setting
  | name :: rest => .group none [(name, setting.nest rest)]

/-- The field of a key with its path spelled out as groups. -/
def spread (field : String × Setting) : String × Setting :=
  match KeyPath.read? field.1 with
  | some path => (path.first, field.2.nest (path.rest.map KeyStep.title))
  | none => field

theorem leaves_nest (setting : Setting) (names : List String) :
    (setting.nest names).leaves =
      setting.leaves.map fun leaf => (names.map Case.lower ++ leaf.1, leaf.2) := by
  induction names with
  | nil => simp [nest]
  | cons name rest ih =>
      simp [nest, leaves, fieldLeaves, ih]

theorem fieldLeaves_spread (fields : List (String × Setting)) :
    fieldLeaves (fields.map spread) = sourceLeaves fields := by
  induction fields with
  | nil => rfl
  | cons head rest ih =>
      rcases head with ⟨key, setting⟩
      simp only [sourceLeaves, List.flatMap_cons, List.map_cons] at ih ⊢
      rw [← ih]
      cases spelled : KeyPath.read? key with
      | none => simp [spread, KeyPath.names, spelled, fieldLeaves]
      | some path => simp [spread, KeyPath.names, spelled, fieldLeaves, leaves_nest]

/-! ## Putting a source over a tree -/

theorem mergeFields_cons_congr {target other : Setting} (sameGroup : target.asGroup = other.asGroup)
    (head : String × Setting) (rest : List (String × Setting)) :
    mergeFields (head :: rest) target = mergeFields (head :: rest) other := by
  rcases head with ⟨name, incoming⟩
  rw [mergeFields_cons, mergeFields_cons, sameGroup]

/-- Putting a setting at the end of a path of names is putting nested groups over the root. -/
theorem place_names (setting : Setting) (name : String) (rest : List String) (root : Setting) :
    place setting (.name name) (rest.map .name) root =
      .ok (mergeFields [(name, setting.nest rest)] root) := by
  induction rest generalizing name root with
  | nil => rfl
  | cons next more ih =>
      have sameChild : mergeFields [(next, setting.nest more)]
            ((field? root.asGroup.2 name).getD nothing) =
          mergeFields [(next, setting.nest more)] ((field? root.asGroup.2 name).getD .empty) := by
        apply mergeFields_cons_congr
        cases field? root.asGroup.2 name <;> rfl
      simp only [List.map_cons, place, ih, bind, Except.bind, pure, Except.pure, sameChild]
      rw [nest, mergeFields_cons name, mergeFields_nil, onto]

theorem mergeFields_append (first second : List (String × Setting)) (target : Setting) :
    mergeFields (first ++ second) target = mergeFields second (mergeFields first target) := by
  induction first generalizing target with
  | nil => rw [List.nil_append, mergeFields]
  | cons head rest ih =>
      rcases head with ⟨name, incoming⟩
      rw [List.cons_append, mergeFields_cons, mergeFields_cons, ih]

theorem putKey_eq {key : String}
    (plain : ∀ name ∈ KeyPath.names key, KeyPath.IsPlain (Case.lower name))
    (setting root : Setting) :
    putKey key setting root = .ok (mergeFields [spread (key, setting)] root) := by
  cases spelled : KeyPath.read? key with
  | none => simp only [putKey, spread, spelled]
  | some path =>
      have stepsPlain : ∀ step ∈ path.rest, KeyPath.IsPlain (Case.lower step.title) := by
        intro step mem
        apply plain
        simp only [KeyPath.names, spelled]
        exact List.mem_cons_of_mem _ (List.mem_map_of_mem mem)
      have allNames : (path.rest.map KeyStep.title).map .name = path.rest := by
        rw [List.map_map]
        refine (List.map_congr_left fun step mem => ?_).trans (List.map_id _)
        exact (KeyStep.eq_name_of_isPlain (stepsPlain step mem)).symm
      simp only [putKey, spread, spelled]
      rw [← place_names, allNames]

/-- Putting a source over a root is merging its keys, spelled out as groups. -/
theorem layer_eq {fields : List (String × Setting)}
    (plain : ∀ field ∈ fields, ∀ name ∈ KeyPath.names field.1, KeyPath.IsPlain (Case.lower name))
    (root : Setting) : layer fields root = .ok (mergeFields (fields.map spread) root) := by
  induction fields generalizing root with
  | nil =>
      rw [List.map_nil, mergeFields_nil]
      rfl
  | cons head rest ih =>
      rw [layer, List.foldlM_cons, putKey_eq (plain head List.mem_cons_self), List.map_cons,
        ← List.singleton_append, mergeFields_append]
      exact ih (fun field mem => plain field (List.mem_cons_of_mem _ mem)) _

theorem layer_eq_of_isPlain {fields : List (String × Setting)}
    (plain : ∀ field ∈ fields, KeyPath.IsPlain field.1) (root : Setting) :
    layer fields root = .ok (mergeFields fields root) := by
  have spelled : ∀ field ∈ fields, spread field = field := by
    intro field mem
    simp [spread, KeyPath.read?_of_isPlain (plain field mem), nest]
  rw [layer_eq, List.map_congr_left spelled, List.map_id']
  intro field mem name isName
  have same : name = field.1 := by
    simpa [KeyPath.names, KeyPath.read?_of_isPlain (plain field mem)] using isName
  rw [same, Case.lower_of_isPlain (plain field mem)]
  exact plain field mem

end Setting

/-! ## The settings of a server -/

/-- The settings that a server knows. -/
inductive SettingKey where
  | host
  | port
  | workers
  | level
  | accessLog
  | accessLogFormat
  | accessLogFile
  | errorLogFile
  | keepAliveTimeout
  | readTimeout
  | writeTimeout
  | maxConnections
  | startPastEnd
  deriving DecidableEq

namespace SettingKey

/-- The section of a setting. -/
def group : SettingKey → SettingsSection
  | host | port | workers => .server
  | level | accessLog | accessLogFormat | accessLogFile | errorLogFile => .logging
  | keepAliveTimeout | readTimeout | writeTimeout | maxConnections => .performance
  | startPastEnd => .http

/-- The name of a setting within its section. -/
def name : SettingKey → String
  | host => "host"
  | port => "port"
  | workers => "workers"
  | level => "level"
  | accessLog => "access_log"
  | accessLogFormat => "access_log_format"
  | accessLogFile => "access_log_file"
  | errorLogFile => "error_log_file"
  | keepAliveTimeout => "keep_alive_timeout"
  | readTimeout => "read_timeout"
  | writeTimeout => "write_timeout"
  | maxConnections => "max_connections"
  | startPastEnd => "start_past_end"

/-- The path to a setting. -/
def path (key : SettingKey) : List String := [key.group.key, key.name]

/-- The path to a setting as a key. -/
def text (key : SettingKey) : String := key.group.key ++ "." ++ key.name

theorem path_injective {key other : SettingKey} (same : key.path = other.path) : key = other := by
  cases key <;> cases other <;> first | rfl | exact absurd same (by decide)

theorem eq_of_prefix {key other : SettingKey} (isPrefix : key.path <+: other.path) :
    key = other :=
  path_injective (isPrefix.eq_of_length rfl)

theorem isPlain_of_mem_path {key : SettingKey} {name : String} (mem : name ∈ key.path) :
    KeyPath.IsPlain name := by
  have allPlain : ∀ name ∈ key.path, KeyPath.IsPlain name := by
    cases key <;>
      simp [path, group, SettingKey.name, SettingsSection.key, KeyPath.IsPlain, KeyPath.isPlainChar,
        KeyPath.isNameChar]
  exact allPlain name mem

end SettingKey

/-- The first setting of a section. -/
def SettingsSection.firstKey : SettingsSection → SettingKey
  | .server => .host
  | .logging => .level
  | .performance => .keepAliveTimeout
  | .http => .startPastEnd

theorem SettingsSection.group_firstKey (group : SettingsSection) :
    group.firstKey.group = group := by
  cases group <;> rfl

theorem SettingsSection.prefix_firstKey (group : SettingsSection) :
    [group.key] <+: group.firstKey.path := by
  simp [SettingKey.path, group.group_firstKey]

namespace Setting

/-- What an orderly source may say: a plain value for a known setting, a section without fields, or
anything at a path of plain names that neither leads to a known setting nor beyond one. -/
inductive OrderlyLeaf : List String × Setting → Prop where
  | known (key : SettingKey) {origin : Option String} {value : PlainSetting} :
      OrderlyLeaf (key.path, .plain origin value)
  | emptySection (group : SettingsSection) {origin : Option String} :
      OrderlyLeaf ([group.key], .group origin [])
  | unrelated {path : List String} {setting : Setting}
      (plain : ∀ name ∈ path, KeyPath.IsPlain name)
      (apart : ∀ key : SettingKey, ¬path <+: key.path ∧ ¬key.path <+: path) :
      OrderlyLeaf (path, setting)

/-- A source that gives each known setting at most one value, and says nothing else that comes near
them. -/
structure Orderly (fields : List (String × Setting)) : Prop where
  leaf : ∀ leaf ∈ sourceLeaves fields, OrderlyLeaf leaf
  once : ∀ (key : SettingKey) (first second : Setting), (key.path, first) ∈ sourceLeaves fields →
    (key.path, second) ∈ sourceLeaves fields → first = second

theorem orderly_of_nodup {fields : List (String × Setting)} {leaves : List (List String × Setting)}
    (isLeaves : sourceLeaves fields = leaves) (distinct : (leaves.map (·.1)).Nodup)
    (each : ∀ leaf ∈ leaves, OrderlyLeaf leaf) : Orderly fields where
  leaf := isLeaves ▸ each
  once := by
    subst isLeaves
    intro key first second firstMem secondMem
    have sameLeaf := List.inj_on_of_nodup_map distinct firstMem secondMem rfl
    exact congrArg Prod.snd sameLeaf

/-- The value that a source gives to a known setting, if any. -/
def said? (fields : List (String × Setting)) (key : SettingKey) : Option Setting :=
  (sourceLeaves fields).lookup key.path

variable {leaf : List String × Setting} {fields : List (String × Setting)} {key : SettingKey}

theorem OrderlyLeaf.isPlain (orderly : OrderlyLeaf leaf) {name : String} (mem : name ∈ leaf.1) :
    KeyPath.IsPlain name := by
  cases orderly with
  | known key => exact SettingKey.isPlain_of_mem_path mem
  | emptySection group =>
      have allPlain : ∀ name ∈ [group.key], KeyPath.IsPlain name := by
        cases group <;>
          simp [SettingsSection.key, KeyPath.IsPlain, KeyPath.isPlainChar, KeyPath.isNameChar]
      exact allPlain name mem
  | unrelated plain apart => exact plain name mem

theorem OrderlyLeaf.spares (orderly : OrderlyLeaf leaf) (elsewhere : leaf.1 ≠ key.path) :
    Spares leaf key.path := by
  cases orderly with
  | known other =>
      have differs : other ≠ key := by
        rintro rfl
        exact elsewhere rfl
      exact ⟨fun isPrefix => absurd (SettingKey.eq_of_prefix isPrefix).symm differs,
        fun isPrefix => absurd (SettingKey.eq_of_prefix isPrefix) differs⟩
  | emptySection group =>
      have longer : ¬key.path <+: [group.key] := by
        intro isPrefix
        exact absurd isPrefix.length_le (by simp [SettingKey.path])
      exact ⟨longer, fun _ => trivial⟩
  | unrelated plain apart =>
      exact ⟨(apart key).2, fun isPrefix => absurd isPrefix (apart key).1⟩

theorem OrderlyLeaf.exists_plain {setting : Setting} (orderly : OrderlyLeaf (key.path, setting)) :
    ∃ origin value, setting = .plain origin value := by
  generalize isPath : key.path = path at orderly
  cases orderly with
  | known other => exact ⟨_, _, rfl⟩
  | emptySection group => exact absurd (congrArg List.length isPath) (by simp [SettingKey.path])
  | unrelated plain apart => exact absurd (isPath ▸ List.prefix_refl _) (apart key).1

/-- At the place of a section an orderly source has no leaf but a group without fields. -/
theorem OrderlyLeaf.isGroup {group : SettingsSection} {setting : Setting}
    (orderly : OrderlyLeaf ([group.key], setting)) : setting.IsGroup := by
  generalize isPath : [group.key] = path at orderly
  cases orderly with
  | known key => exact absurd (congrArg List.length isPath) (by simp [SettingKey.path])
  | emptySection other => trivial
  | unrelated plain apart => exact absurd (isPath ▸ group.prefix_firstKey) (apart group.firstKey).1

theorem Orderly.exists_plain (orderly : Orderly fields) {setting : Setting}
    (said : said? fields key = some setting) :
    ∃ origin value, setting = .plain origin value :=
  (orderly.leaf _ (mem_of_lookup said)).exists_plain

theorem Orderly.isPlain (orderly : Orderly fields) :
    ∀ leaf ∈ fieldLeaves (fields.map spread), ∀ name ∈ leaf.1, KeyPath.IsPlain name := by
  rw [fieldLeaves_spread]
  exact fun leaf mem _ => (orderly.leaf leaf mem).isPlain

theorem Orderly.layer_eq (orderly : Orderly fields) (root : Setting) :
    layer fields root = .ok (mergeFields (fields.map spread) root) := by
  refine Setting.layer_eq ?_ root
  intro field mem name isName
  rcases field.2.exists_mem_leaves with ⟨leaf, leafMem⟩
  have isLeaf : ((KeyPath.names field.1).map Case.lower ++ leaf.1, leaf.2) ∈ sourceLeaves fields :=
    List.mem_flatMap_of_mem mem (List.mem_map.mpr ⟨leaf, leafMem, rfl⟩)
  exact (orderly.leaf _ isLeaf).isPlain (List.mem_append_left _ (List.mem_map_of_mem isName))

theorem Orderly.said?_eq_some_iff (orderly : Orderly fields) {setting : Setting} :
    said? fields key = some setting ↔ (key.path, setting) ∈ sourceLeaves fields := by
  refine ⟨mem_of_lookup, fun mem => ?_⟩
  cases said : said? fields key with
  | none =>
      have notHere := List.lookup_eq_none_iff.mp said _ mem
      simp at notHere
  | some other => rw [orderly.once key _ _ (mem_of_lookup said) mem]

/-- Putting an orderly source over a tree sets the known settings that the source says, and leaves
the others. -/
theorem at?_mergeFields_of_orderly (orderly : Orderly fields) (root : Setting) (key : SettingKey) :
    (mergeFields (fields.map spread) root).at? key.path =
      (said? fields key).or (root.at? key.path) := by
  cases said : said? fields key with
  | none =>
      apply at?_mergeFields_of_spares
      rw [fieldLeaves_spread]
      intro leaf mem
      apply (orderly.leaf leaf mem).spares
      rintro isHere
      have isSaid := orderly.said?_eq_some_iff.mpr (isHere ▸ mem : (key.path, leaf.2) ∈ _)
      rw [said] at isSaid
      cases isSaid
  | some setting =>
      have mem := orderly.said?_eq_some_iff.mp said
      rcases orderly.exists_plain said with ⟨origin, value, rfl⟩
      refine at?_mergeFields_of_leaf _ _ _ id (fieldLeaves_spread fields ▸ mem) ?_
      rw [fieldLeaves_spread]
      rintro ⟨path, other⟩ otherMem
      by_cases isHere : path = key.path
      · subst isHere
        exact Or.inl (by rw [orderly.once key _ _ otherMem mem])
      · exact Or.inr ((orderly.leaf _ otherMem).spares isHere)

/-- What stands at a section stays a group when an orderly source is put over it. -/
theorem isGroup_at?_of_orderly (orderly : Orderly fields) (group : SettingsSection)
    {root : Setting} (before : ∀ setting, root.at? [group.key] = some setting → setting.IsGroup) :
    ∀ setting, (mergeFields (fields.map spread) root).at? [group.key] = some setting →
      setting.IsGroup := by
  refine isGroup_at?_mergeFields ?_ before
  rw [fieldLeaves_spread]
  rintro ⟨path, setting⟩ mem rfl
  exact (orderly.leaf _ mem).isGroup

end Setting

end RangeServer
