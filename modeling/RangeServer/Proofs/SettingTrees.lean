import Mathlib
import RangeServer.Proofs.Entries
import RangeServer.Settings.Setting

/-!
# Trees of settings

Settings are groups within groups, and a layer of settings is put over another name by name. What
stands at the end of a path is `Setting.at?`, and what a layer says is the list of its leaves, each
with the path that leads to it in small letters.

Two statements tell what putting fields over a target does to one path. If no leaf of the fields
touches the path, what stood there stays. If one leaf does, and all that touch it are this one, its
setting is what stands there afterwards. The fields may be in any order and may name a group many
times and in any case of letters; the target may be anything at all.

A tree that came out of such merging is tidy: each name is in small letters and stands once in its
group. A tidy tree can be read off by looking names up, also when it is put over another tree.
-/

namespace RangeServer

namespace Setting

/-- What stands at the end of a path of names in small letters. -/
def at? (setting : Setting) : List String → Option Setting
  | [] => some setting
  | name :: rest => (setting.asGroup.2.lookup name).bind (·.at? rest)

mutual

/-- What a setting says, with the paths that lead there: all that is no group, and the groups that
have no field. -/
def leaves : Setting → List (List String × Setting)
  | .plain origin value => [([], .plain origin value)]
  | .list origin items => [([], .list origin items)]
  | .group origin fields => if fields.isEmpty then [([], .group origin [])] else fieldLeaves fields

/-- What fields say, with the paths that lead there. -/
def fieldLeaves : List (String × Setting) → List (List String × Setting)
  | [] => []
  | (name, setting) :: rest =>
    setting.leaves.map (fun leaf => (Case.lower name :: leaf.1, leaf.2)) ++ fieldLeaves rest

end

/-- Whether a setting is a group. -/
def IsGroup : Setting → Prop
  | .group _ _ => True
  | _ => False

/-- Whether a setting is a group without fields. -/
def IsEmptyGroup : Setting → Prop
  | .group _ [] => True
  | _ => False

/-- Whether a leaf does not touch a path: it lies neither at the path nor below it, and above it
only as a group without fields. -/
def Spares (leaf : List String × Setting) (path : List String) : Prop :=
  ¬path <+: leaf.1 ∧ (leaf.1 <+: path → leaf.2.IsEmptyGroup)

/-! ## Fields -/

theorem lookup_putSmall (name : String) (setting : Setting) (fields : List (String × Setting))
    (other : String) :
    (putSmall name setting fields).lookup other =
      if other = name then some setting else fields.lookup other := by
  induction fields with
  | nil =>
      rw [putSmall, List.lookup_cons, List.lookup_nil]
      grind
  | cons head rest ih =>
      rcases head with ⟨first, old⟩
      rw [putSmall, List.lookup_cons]
      split
      · rename_i isName
        rw [List.lookup_cons, isName]
        grind
      · rename_i notName
        rw [List.lookup_cons, ih]
        grind

theorem at?_single (setting : Setting) (name : String) :
    setting.at? [name] = setting.asGroup.2.lookup name := by
  simp only [at?]
  cases setting.asGroup.2.lookup name with
  | none => rfl
  | some part => rfl

theorem at?_pair (setting : Setting) (first second : String) :
    setting.at? [first, second] =
      (setting.asGroup.2.lookup first).bind (·.asGroup.2.lookup second) := by
  simp only [at?]
  cases setting.asGroup.2.lookup first with
  | none => rfl
  | some part => exact at?_single part second

/-- A field put into a group is found under its name, and all else is found as before. -/
theorem at?_put (origin : Option String) (name : String) (setting target : Setting)
    (first : String) (rest : List String) :
    (Setting.group origin (put name setting target.asGroup.2)).at? (first :: rest) =
      if first = Case.lower name then setting.at? rest else target.at? (first :: rest) := by
  simp only [at?, asGroup, put, lookup_putSmall]
  split
  · rfl
  · rfl

@[simp]
theorem mergeFields_nil (target : Setting) : mergeFields [] target = target := by
  rw [mergeFields]

/-- Fields go over a target one after the other. -/
theorem mergeFields_cons (name : String) (incoming : Setting) (rest : List (String × Setting))
    (target : Setting) :
    mergeFields ((name, incoming) :: rest) target =
      mergeFields rest (.group target.asGroup.1
        (put name (incoming.onto ((field? target.asGroup.2 name).getD .empty))
          target.asGroup.2)) := by
  rw [mergeFields]

/-- Below the place where a field is put, the target is found as before. -/
theorem at?_getD_field? (target : Setting) (name : String) {path : List String}
    (below : path ≠ []) :
    ((field? target.asGroup.2 name).getD .empty).at? path =
      target.at? (Case.lower name :: path) := by
  simp only [at?, field?]
  cases target.asGroup.2.lookup (Case.lower name) with
  | none =>
      cases path with
      | nil => exact absurd rfl below
      | cons first rest => rfl
  | some there => rfl

theorem onto_of_not_isGroup {incoming : Setting} (noGroup : ¬incoming.IsGroup)
    (target : Setting) : incoming.onto target = incoming := by
  cases incoming with
  | plain origin value => simp [onto]
  | list origin items => simp [onto]
  | group origin fields => exact absurd trivial noGroup

/-! ## Leaves -/

theorem leaves_ne_nil : ∀ setting : Setting, setting.leaves ≠ []
  | .plain origin value => by simp [leaves]
  | .list origin items => by simp [leaves]
  | .group origin [] => by simp [leaves]
  | .group origin ((name, setting) :: rest) => by
    simp [leaves, fieldLeaves, leaves_ne_nil setting]

theorem exists_mem_leaves (setting : Setting) : ∃ leaf, leaf ∈ setting.leaves :=
  List.exists_mem_of_ne_nil _ setting.leaves_ne_nil

theorem mem_fieldLeaves_cons {name : String} {setting : Setting}
    {rest : List (String × Setting)} {leaf : List String × Setting} :
    leaf ∈ fieldLeaves ((name, setting) :: rest) ↔
      (∃ path inner, (path, inner) ∈ setting.leaves ∧ leaf = (Case.lower name :: path, inner)) ∨
        leaf ∈ fieldLeaves rest := by
  simp only [fieldLeaves, List.mem_append, List.mem_map, Prod.exists]
  grind

theorem spares_cons_self {name : String} {path rest : List String} {setting : Setting} :
    Spares (name :: path, setting) (name :: rest) ↔ Spares (path, setting) rest := by
  simp [Spares, List.cons_prefix_cons]

/-- No leaf of anything spares the place where it stands. -/
theorem exists_not_spares_nil (setting : Setting) :
    ∃ leaf ∈ setting.leaves, ¬Spares leaf [] := by
  rcases setting.exists_mem_leaves with ⟨leaf, mem⟩
  exact ⟨leaf, mem, fun spares => spares.1 (List.nil_prefix)⟩

/-! ## What merging leaves and what it sets -/

mutual

/-- Putting a setting over a target leaves what stands below, where no leaf touches the path. -/
theorem at?_onto_of_spares (incoming target : Setting) (path : List String)
    (spared : ∀ leaf ∈ incoming.leaves, Spares leaf path) :
    (incoming.onto target).at? path = target.at? path := by
  cases incoming with
  | plain origin value =>
      have touched := (spared ([], .plain origin value) (by simp [leaves])).2 List.nil_prefix
      exact absurd touched id
  | list origin items =>
      have touched := (spared ([], .list origin items) (by simp [leaves])).2 List.nil_prefix
      exact absurd touched id
  | group origin fields =>
      rw [onto]
      cases fields with
      | nil => rw [mergeFields]
      | cons head rest =>
          refine at?_mergeFields_of_spares (head :: rest) target path ?_
          simpa [leaves] using spared

/-- Putting fields over a target leaves what stands at a path that none of their leaves touches. -/
theorem at?_mergeFields_of_spares (fields : List (String × Setting)) (target : Setting)
    (path : List String) (spared : ∀ leaf ∈ fieldLeaves fields, Spares leaf path) :
    (mergeFields fields target).at? path = target.at? path := by
  cases fields with
  | nil => rw [mergeFields]
  | cons head rest =>
      rcases head with ⟨name, incoming⟩
      have restSpared : ∀ leaf ∈ fieldLeaves rest, Spares leaf path :=
        fun leaf mem => spared leaf (mem_fieldLeaves_cons.mpr (Or.inr mem))
      have incomingSpared : ∀ leaf ∈ incoming.leaves,
          Spares (Case.lower name :: leaf.1, leaf.2) path :=
        fun leaf mem => spared _ (mem_fieldLeaves_cons.mpr (Or.inl ⟨leaf.1, leaf.2, mem, rfl⟩))
      rw [mergeFields_cons, at?_mergeFields_of_spares rest _ path restSpared]
      cases path with
      | nil =>
          rcases incoming.exists_mem_leaves with ⟨leaf, mem⟩
          exact absurd List.nil_prefix (incomingSpared leaf mem).1
      | cons first more =>
          rw [at?_put]
          split
          · rename_i isName
            subst isName
            have below : ∀ leaf ∈ incoming.leaves, Spares leaf more :=
              fun leaf mem => spares_cons_self.mp (incomingSpared leaf mem)
            rw [at?_onto_of_spares incoming _ more below, at?_getD_field? _ _ ?_]
            rintro rfl
            rcases incoming.exists_not_spares_nil with ⟨leaf, mem, touches⟩
            exact touches (below leaf mem)
          · rfl

end

mutual

/-- Putting a setting over anything sets what stands at the path of its one leaf there. -/
theorem at?_onto_of_leaf (incoming target : Setting) (path : List String)
    {said : Setting} (noGroup : ¬said.IsGroup) (mem : (path, said) ∈ incoming.leaves)
    (others : ∀ leaf ∈ incoming.leaves, leaf = (path, said) ∨ Spares leaf path) :
    (incoming.onto target).at? path = some said := by
  cases incoming with
  | plain origin value =>
      simp only [leaves, List.mem_singleton, Prod.mk.injEq] at mem
      rcases mem with ⟨rfl, rfl⟩
      rw [onto_of_not_isGroup noGroup]
      rfl
  | list origin items =>
      simp only [leaves, List.mem_singleton, Prod.mk.injEq] at mem
      rcases mem with ⟨rfl, rfl⟩
      rw [onto_of_not_isGroup noGroup]
      rfl
  | group origin fields =>
      rw [onto]
      cases fields with
      | nil =>
          simp only [leaves, List.isEmpty_nil, if_true, List.mem_singleton, Prod.mk.injEq] at mem
          exact absurd (mem.2 ▸ trivial) noGroup
      | cons head rest =>
          have sameLeaves : (Setting.group origin (head :: rest)).leaves =
              fieldLeaves (head :: rest) := by
            simp [leaves]
          rw [sameLeaves] at mem others
          exact at?_mergeFields_of_leaf (head :: rest) target path noGroup mem others

/-- Putting fields over anything sets what stands at the path of their one leaf there. -/
theorem at?_mergeFields_of_leaf (fields : List (String × Setting)) (target : Setting)
    (path : List String) {said : Setting} (noGroup : ¬said.IsGroup)
    (mem : (path, said) ∈ fieldLeaves fields)
    (others : ∀ leaf ∈ fieldLeaves fields, leaf = (path, said) ∨ Spares leaf path) :
    (mergeFields fields target).at? path = some said := by
  cases fields with
  | nil => simp [fieldLeaves] at mem
  | cons head rest =>
      rcases head with ⟨name, incoming⟩
      have restOthers : ∀ leaf ∈ fieldLeaves rest, leaf = (path, said) ∨ Spares leaf path :=
        fun leaf inRest => others leaf (mem_fieldLeaves_cons.mpr (Or.inr inRest))
      rw [mergeFields_cons]
      by_cases inRest : (path, said) ∈ fieldLeaves rest
      · exact at?_mergeFields_of_leaf rest _ path noGroup inRest restOthers
      -- The leaf stands in the first field alone, and no later field touches its path.
      have restSpared : ∀ leaf ∈ fieldLeaves rest, Spares leaf path := by
        intro leaf leafMem
        rcases restOthers leaf leafMem with rfl | spares
        · exact absurd leafMem inRest
        · exact spares
      rw [at?_mergeFields_of_spares rest _ path restSpared]
      rcases (mem_fieldLeaves_cons.mp mem).resolve_right inRest with ⟨more, inner, inHead, isLeaf⟩
      cases isLeaf
      rw [at?_put, if_pos rfl]
      refine at?_onto_of_leaf incoming _ more noGroup inHead ?_
      intro leaf leafMem
      rcases others _ (mem_fieldLeaves_cons.mpr (Or.inl ⟨leaf.1, leaf.2, leafMem, rfl⟩)) with
        same | spares
      · left
        simpa [Prod.ext_iff] using same
      · exact Or.inr (spares_cons_self.mp spares)

end

/-! ## Groups stay groups -/

theorem isGroup_mergeFields (fields : List (String × Setting)) {target : Setting}
    (isGroup : target.IsGroup) : (mergeFields fields target).IsGroup := by
  induction fields generalizing target with
  | nil => rwa [mergeFields]
  | cons head rest ih =>
      rcases head with ⟨name, incoming⟩
      rw [mergeFields_cons]
      exact ih trivial

/-- What stands under a name stays a group if nothing but groups is said there. -/
theorem isGroup_at?_mergeFields {fields : List (String × Setting)} {name : String}
    (noLeaf : ∀ leaf ∈ fieldLeaves fields, leaf.1 = [name] → leaf.2.IsGroup) {target : Setting}
    (before : ∀ setting, target.at? [name] = some setting → setting.IsGroup) :
    ∀ setting, (mergeFields fields target).at? [name] = some setting → setting.IsGroup := by
  induction fields generalizing target with
  | nil => rwa [mergeFields]
  | cons head rest ih =>
      rcases head with ⟨other, incoming⟩
      rw [mergeFields_cons]
      refine ih (fun leaf mem => noLeaf leaf (mem_fieldLeaves_cons.mpr (Or.inr mem))) ?_
      intro setting found
      rw [at?_put] at found
      split at found
      · rename_i isOther
        subst isOther
        cases found
        have said : ∀ leaf ∈ incoming.leaves, leaf.1 = [] → leaf.2.IsGroup := by
          intro leaf mem isHere
          refine noLeaf (Case.lower other :: leaf.1, leaf.2) ?_ (by rw [isHere])
          exact mem_fieldLeaves_cons.mpr (Or.inl ⟨leaf.1, leaf.2, mem, rfl⟩)
        cases incoming with
        | plain origin value =>
            exact absurd (said ([], .plain origin value) (by simp [leaves]) rfl) id
        | list origin items =>
            exact absurd (said ([], .list origin items) (by simp [leaves]) rfl) id
        | group origin fields =>
            rw [onto]
            apply isGroup_mergeFields
            cases there : field? target.asGroup.2 other with
            | none => trivial
            | some standing =>
                refine before standing ?_
                simp only [at?, field?] at there ⊢
                rw [there]
                rfl
      · exact before setting found

/-! ## Tidy trees -/

/-- A tree in which each group names its fields once, and by names of a kind. -/
inductive Tidy (isName : String → Prop) : Setting → Prop where
  | plain {origin : Option String} {value : PlainSetting} : Tidy isName (.plain origin value)
  | list {origin : Option String} {items : List Setting} : Tidy isName (.list origin items)
  | group {origin : Option String} {fields : List (String × Setting)}
      (distinct : (fields.map (·.1)).Nodup) (named : ∀ field ∈ fields, isName field.1)
      (inner : ∀ field ∈ fields, Tidy isName field.2) : Tidy isName (.group origin fields)

variable {isName : String → Prop}

theorem tidy_empty : Tidy isName .empty := .group (by simp) (by simp) (by simp)

theorem Tidy.asGroup {setting : Setting} (tidy : setting.Tidy isName) :
    (setting.asGroup.2.map (·.1)).Nodup ∧ (∀ field ∈ setting.asGroup.2, isName field.1) ∧
      ∀ field ∈ setting.asGroup.2, field.2.Tidy isName := by
  cases tidy with
  | plain => simp [Setting.asGroup]
  | list => simp [Setting.asGroup]
  | group distinct named inner => exact ⟨distinct, named, inner⟩

theorem mem_putSmall {name : String} {setting : Setting} {fields : List (String × Setting)}
    {field : String × Setting} (mem : field ∈ putSmall name setting fields) :
    field = (name, setting) ∨ field ∈ fields := by
  induction fields with
  | nil => simpa [putSmall] using mem
  | cons head rest ih =>
      rw [putSmall] at mem
      split at mem <;> grind

theorem nodup_putSmall (name : String) (setting : Setting) {fields : List (String × Setting)}
    (distinct : (fields.map (·.1)).Nodup) : ((putSmall name setting fields).map (·.1)).Nodup := by
  induction fields with
  | nil => simp [putSmall]
  | cons head rest ih =>
      rcases head with ⟨first, old⟩
      rcases List.nodup_cons.mp distinct with ⟨fresh, restDistinct⟩
      rw [putSmall]
      split
      · rename_i isName
        exact isName ▸ distinct
      · rename_i notName
        refine List.nodup_cons.mpr ⟨?_, ih restDistinct⟩
        intro inRest
        rcases List.mem_map.mp inRest with ⟨field, mem, sameName⟩
        rcases mem_putSmall mem with rfl | mem
        · exact notName sameName.symm
        · exact fresh (List.mem_map.mpr ⟨field, mem, sameName⟩)

theorem tidy_put {origin : Option String} {name : String} {setting target : Setting}
    (named : isName (Case.lower name)) (tidy : setting.Tidy isName)
    (targetTidy : target.Tidy isName) :
    (Setting.group origin (put name setting target.asGroup.2)).Tidy isName := by
  rcases targetTidy.asGroup with ⟨distinct, allNamed, inner⟩
  refine .group (nodup_putSmall _ setting distinct) ?_ ?_
  · intro field mem
    rcases mem_putSmall mem with rfl | mem
    · exact named
    · exact allNamed field mem
  · intro field mem
    rcases mem_putSmall mem with rfl | mem
    · exact tidy
    · exact inner field mem

theorem Tidy.getD_field? {target : Setting} (tidy : target.Tidy isName) (name : String) :
    ((field? target.asGroup.2 name).getD .empty).Tidy isName := by
  cases there : field? target.asGroup.2 name with
  | none => exact tidy_empty
  | some standing => exact tidy.asGroup.2.2 _ (mem_of_lookup there)

mutual

theorem tidy_onto (incoming : Setting) {target : Setting}
    (named : ∀ leaf ∈ incoming.leaves, ∀ name ∈ leaf.1, isName name)
    (tidy : target.Tidy isName) : (incoming.onto target).Tidy isName := by
  cases incoming with
  | plain origin value =>
      rw [onto_of_not_isGroup id]
      exact .plain
  | list origin items =>
      rw [onto_of_not_isGroup id]
      exact .list
  | group origin fields =>
      rw [onto]
      cases fields with
      | nil => rwa [mergeFields]
      | cons head rest =>
          refine tidy_mergeFields (head :: rest) ?_ tidy
          simpa [leaves] using named

/-- Putting fields over a tidy tree gives a tidy tree. -/
theorem tidy_mergeFields (fields : List (String × Setting)) {target : Setting}
    (named : ∀ leaf ∈ fieldLeaves fields, ∀ name ∈ leaf.1, isName name)
    (tidy : target.Tidy isName) : (mergeFields fields target).Tidy isName := by
  cases fields with
  | nil => rwa [mergeFields]
  | cons head rest =>
      rcases head with ⟨name, incoming⟩
      have headNamed : ∀ leaf ∈ incoming.leaves,
          ∀ inner ∈ Case.lower name :: leaf.1, isName inner :=
        fun leaf mem => named _ (mem_fieldLeaves_cons.mpr (Or.inl ⟨leaf.1, leaf.2, mem, rfl⟩))
      rw [mergeFields_cons]
      refine tidy_mergeFields rest
        (fun leaf mem => named leaf (mem_fieldLeaves_cons.mpr (Or.inr mem))) (tidy_put ?_ ?_ tidy)
      · rcases incoming.exists_mem_leaves with ⟨leaf, mem⟩
        exact headNamed leaf mem _ List.mem_cons_self
      · refine tidy_onto incoming ?_ (tidy.getD_field? name)
        intro leaf mem inner innerMem
        exact headNamed leaf mem inner (List.mem_cons_of_mem _ innerMem)

end

/-! ## Tidy trees over others -/

/-- Fields that name each thing once, and in small letters, can be looked up when they are put over
a target. -/
theorem at?_mergeFields_of_distinct (fields : List (String × Setting))
    (distinct : (fields.map (·.1)).Nodup) (small : ∀ field ∈ fields, Case.lower field.1 = field.1)
    (target : Setting) (first : String) (rest : List String) :
    (mergeFields fields target).at? (first :: rest) =
      match fields.lookup first with
      | none => target.at? (first :: rest)
      | some incoming =>
        (incoming.onto ((target.asGroup.2.lookup first).getD .empty)).at? rest := by
  induction fields generalizing target with
  | nil => rw [mergeFields]; rfl
  | cons head more ih =>
      rcases head with ⟨name, incoming⟩
      have isSmall : Case.lower name = name := small (name, incoming) List.mem_cons_self
      rcases List.nodup_cons.mp distinct with ⟨fresh, moreDistinct⟩
      have moreSmall : ∀ field ∈ more, Case.lower field.1 = field.1 :=
        fun field mem => small field (List.mem_cons_of_mem _ mem)
      rw [mergeFields_cons, ih moreDistinct moreSmall, at?_put, isSmall]
      by_cases isFirst : first = name
      · subst isFirst
        rw [lookup_eq_none_of_not_mem fresh, List.lookup_cons_self, if_pos rfl, field?, isSmall]
      · have notFirst : (first == name) = false := by simpa using isFirst
        simp only [List.lookup_cons, notFirst, if_neg isFirst, asGroup, put, isSmall,
          lookup_putSmall]

/-- Over a target, what a tidy tree says at a path of two names is what stands there, and where it
says nothing the target stays. -/
theorem at?_over_of_tidy {said : Setting} (tidy : said.Tidy isName)
    (small : ∀ name, isName name → Case.lower name = name) {first second : String}
    (aboveGroup : ∀ setting, said.at? [first] = some setting → setting.IsGroup)
    (noGroup : ∀ setting, said.at? [first, second] = some setting → ¬setting.IsGroup)
    (target : Setting) :
    (mergeFields said.asGroup.2 target).at? [first, second] =
      (said.at? [first, second]).or (target.at? [first, second]) := by
  rcases tidy.asGroup with ⟨distinct, named, inner⟩
  rw [at?_mergeFields_of_distinct _ distinct fun field mem => small _ (named field mem)]
  cases above : said.asGroup.2.lookup first with
  | none => simp [at?_pair, above]
  | some part =>
      have isPart : (first, part) ∈ said.asGroup.2 := mem_of_lookup above
      have partGroup := aboveGroup part ((at?_single said first).trans above)
      cases part with
      | plain origin value => exact absurd partGroup id
      | list origin items => exact absurd partGroup id
      | group origin fields =>
          rcases (inner _ isPart).asGroup with ⟨partDistinct, partNamed, -⟩
          have isThere : said.at? [first, second] = fields.lookup second := by
            rw [at?_pair, above]
            rfl
          rw [isThere] at noGroup ⊢
          simp only [onto]
          rw [at?_mergeFields_of_distinct fields partDistinct
            fun field mem => small _ (partNamed field mem)]
          cases there : fields.lookup second with
          | none =>
              have standing := at?_getD_field? target first (List.cons_ne_nil second [])
              rw [field?, small first (named _ isPart)] at standing
              exact standing
          | some setting =>
              dsimp only
              rw [onto_of_not_isGroup (noGroup setting there)]
              rfl

end Setting

end RangeServer
