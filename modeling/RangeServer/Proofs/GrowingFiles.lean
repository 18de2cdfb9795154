import Mathlib.Data.List.Basic
import RangeServer.Storage.FileTree

/-!
# File trees only grow

Opening a file for writing at its end may make the file and directories above it, and nothing else:
what stood in a place still stands there, and what is new is a directory or an empty file. This is
so whether the opening succeeds or fails half way. `FileTree.Grows` says it of two trees, and each
step of an opening is shown to grow the tree.

A path that leads somewhere leads there in each later tree, because walking looks at nothing but
which places are directories and which are taken. This is why a file that was opened by a name is
still the file of that name when everything has been written.
-/

namespace RangeServer

namespace FileTree

/-! ## Entries -/

theorem lookup_putEntry (place : List String) (entry : FileEntry)
    (entries : List (List String × FileEntry)) (other : List String) :
    (putEntry place entry entries).lookup other =
      if other = place then some entry else entries.lookup other := by
  induction entries with
  | nil =>
      rw [putEntry, List.lookup_cons, List.lookup_nil]
      grind
  | cons head rest ih =>
      rcases head with ⟨name, old⟩
      rw [putEntry, List.lookup_cons]
      split
      · rename_i isPlace
        rw [List.lookup_cons, isPlace]
        grind
      · rename_i notPlace
        rw [List.lookup_cons, ih]
        grind

theorem entry?_put (tree : FileTree) {place : List String} (notRoot : place ≠ [])
    (entry : FileEntry) (other : List String) :
    entry? (tree.put place entry) other =
      if other = place then some entry else tree.entry? other := by
  by_cases root : other = []
  · subst root
    simp [FileTree.entry?, notRoot.symm]
  · simp [FileTree.entry?, put, lookup_putEntry, root]

/-- The bytes of the file in a place; none where no file is. -/
def bytes (tree : FileTree) (place : List String) : Bytes :=
  match tree.entry? place with
  | some (.file content) => content
  | _ => []

/-- Whether a file stands in a place. -/
def IsFile (tree : FileTree) (place : List String) : Prop :=
  ∃ content, tree.entry? place = some (.file content)

/-- Whether a path leads to a place, which something stands in. -/
def LeadsTo (tree : FileTree) (path : PathName) (place : List String) : Prop :=
  tree.walk (tree.start path) path.names = .ok place

/-! ## Trees that keep what they have -/

/-- A later tree keeps the directories of a tree as directories and its files as files. -/
structure Keeps (tree later : FileTree) : Prop where
  home : later.home = tree.home
  directory : ∀ place, tree.entry? place = some .directory → later.entry? place = some .directory
  file : ∀ place, tree.IsFile place → later.IsFile place

/-- A later tree has all that a tree has, and besides only directories and empty files. -/
structure Grows (tree later : FileTree) : Prop where
  home : later.home = tree.home
  entry : ∀ place, later.entry? place = tree.entry? place ∨ tree.entry? place = none ∧
    (later.entry? place = some .directory ∨ later.entry? place = some (.file []))

theorem Keeps.refl (tree : FileTree) : tree.Keeps tree :=
  ⟨rfl, fun _ => id, fun _ => id⟩

theorem Keeps.trans {tree later last : FileTree} (first : tree.Keeps later)
    (second : later.Keeps last) : tree.Keeps last :=
  ⟨second.home.trans first.home,
    fun place there => second.directory place (first.directory place there),
    fun place there => second.file place (first.file place there)⟩

theorem Grows.refl (tree : FileTree) : tree.Grows tree := ⟨rfl, fun _ => Or.inl rfl⟩

theorem Grows.trans {tree later last : FileTree} (first : tree.Grows later)
    (second : later.Grows last) : tree.Grows last := by
  refine ⟨second.home.trans first.home, ?_⟩
  intro place
  rcases second.entry place with same | ⟨free, fresh⟩
  · rw [same]
    exact first.entry place
  · rcases first.entry place with same | ⟨_, taken⟩
    · exact Or.inr ⟨same.symm.trans free, fresh⟩
    · simp [free] at taken

theorem Grows.keeps {tree later : FileTree} (grows : tree.Grows later) : tree.Keeps later := by
  refine ⟨grows.home, ?_, ?_⟩
  · intro place there
    rcases grows.entry place with same | ⟨free, -⟩
    · exact same.trans there
    · simp [free] at there
  · rintro place ⟨content, there⟩
    rcases grows.entry place with same | ⟨free, -⟩
    · exact ⟨content, same.trans there⟩
    · simp [free] at there

theorem Grows.bytes_eq {tree later : FileTree} (grows : tree.Grows later) (place : List String) :
    later.bytes place = tree.bytes place := by
  unfold bytes
  rcases grows.entry place with same | ⟨free, directory | file⟩
  · rw [same]
  · rw [free, directory]
  · rw [free, file]

theorem grows_put {tree : FileTree} {place : List String} (notRoot : place ≠ [])
    (free : tree.entry? place = none) {entry : FileEntry}
    (fresh : entry = .directory ∨ entry = .file []) : tree.Grows (tree.put place entry) := by
  refine ⟨rfl, ?_⟩
  intro other
  rw [entry?_put tree notRoot]
  split
  · rename_i same
    subst same
    exact Or.inr ⟨free, by simpa using fresh⟩
  · exact Or.inl rfl

/-! ## Walking in a later tree -/

theorem isDirectory_iff {tree : FileTree} {place : List String} :
    tree.isDirectory place = true ↔ tree.entry? place = some .directory := by
  simp [isDirectory]

theorem Keeps.isSome_entry {tree later : FileTree} (keeps : tree.Keeps later)
    {place : List String} (taken : (tree.entry? place).isSome = true) :
    (later.entry? place).isSome = true := by
  cases there : tree.entry? place with
  | none => simp [there] at taken
  | some entry =>
      cases entry with
      | directory => simp [keeps.directory place there]
      | file content =>
          rcases keeps.file place ⟨content, there⟩ with ⟨later, thereLater⟩
          simp [thereLater]

theorem Keeps.step_eq {tree later : FileTree} (keeps : tree.Keeps later) {place : List String}
    {name : String} {found : List String} (stepped : tree.step place name = .ok found) :
    later.step place name = .ok found := by
  unfold step at stepped ⊢
  cases isDirectory : tree.isDirectory place with
  | false => simp [isDirectory] at stepped
  | true =>
      have stays : later.isDirectory place = true :=
        isDirectory_iff.mpr (keeps.directory place (isDirectory_iff.mp isDirectory))
      simp only [isDirectory, stays] at stepped ⊢
      by_cases taken : (tree.entry? (place ++ [name])).isSome = true
      · simpa only [taken, keeps.isSome_entry taken] using stepped
      · -- A free place is stepped into by no name, so the name is one of the two that move.
        grind

theorem Keeps.walk_eq {tree later : FileTree} (keeps : tree.Keeps later) {place : List String}
    {names found : List String} (walked : tree.walk place names = .ok found) :
    later.walk place names = .ok found := by
  induction names generalizing place with
  | nil => exact walked
  | cons name rest ih =>
      cases stepped : tree.step place name with
      | error fault => simp [walk, stepped, bind, Except.bind] at walked
      | ok next =>
          simp only [walk, stepped, keeps.step_eq stepped, bind, Except.bind] at walked ⊢
          exact ih walked

theorem Keeps.leadsTo {tree later : FileTree} (keeps : tree.Keeps later) {path : PathName}
    {place : List String} (leads : tree.LeadsTo path place) : later.LeadsTo path place := by
  have sameStart : later.start path = tree.start path := by
    simp only [start, keeps.home]
  rw [LeadsTo, sameStart]
  exact keeps.walk_eq leads

theorem walk_append (tree : FileTree) (place front back : List String) :
    tree.walk place (front ++ back) = (tree.walk place front).bind (tree.walk · back) := by
  induction front generalizing place with
  | nil => rfl
  | cons name rest ih =>
      simp only [List.cons_append, walk, bind]
      cases tree.step place name with
      | error fault => rfl
      | ok next => exact ih next

/-! ## Opening a file -/

theorem walkToDirectory_eq_ok_iff {tree : FileTree} {place names found : List String} :
    tree.walkToDirectory place names = .ok found ↔
      tree.walk place names = .ok found ∧ tree.entry? found = some .directory := by
  unfold walkToDirectory
  rw [bind_eq_ok_iff, ← isDirectory_iff]
  constructor
  · rintro ⟨middle, walked, directory⟩
    split at directory
    · rename_i isDirectory
      cases directory
      exact ⟨walked, isDirectory⟩
    · cases directory
  · rintro ⟨walked, isDirectory⟩
    refine ⟨found, walked, ?_⟩
    rw [if_pos isDirectory]
    rfl

theorem slot_eq_ok_iff {tree : FileTree} {place found : List String} {name : String}
    {entry : Option FileEntry} :
    tree.slot place name = .ok (found, entry) ↔ ¬maxNameLength < name.utf8ByteSize ∧
      found = place ++ [name] ∧ entry = tree.entry? found := by
  unfold slot
  split
  · simp_all
  · simp_all
    grind

theorem grows_makeDirectory {tree made : FileTree} {place names : List String} {last : String}
    (isMade : tree.makeDirectory place names last = .ok made) : tree.Grows made := by
  unfold makeDirectory at isMade
  rcases bind_eq_ok_iff.mp isMade with ⟨parent, -, isMade⟩
  split at isMade
  · cases isMade
  · rcases bind_eq_ok_iff.mp isMade with ⟨⟨found, there⟩, slotted, isMade⟩
    rcases slot_eq_ok_iff.mp slotted with ⟨-, rfl, isThere⟩
    cases there with
    | none =>
        cases isMade
        exact grows_put (by simp) isThere.symm (Or.inl rfl)
    | some entry => cases isMade

theorem grows_orThere {tree : FileTree} {place names : List String}
    {outcome : Except IoFault FileTree}
    (grows : ∀ made, outcome = .ok made → tree.Grows made) :
    tree.Grows (tree.orThere place names outcome).1 := by
  cases outcome with
  | ok made => exact grows made rfl
  | error fault =>
      by_cases leads : tree.leadsToDirectory place names = true
      · simpa [orThere, leads] using Grows.refl tree
      · simpa [orThere, leads] using Grows.refl tree

theorem grows_makeDirectories (tree : FileTree) (place names : List String) :
    tree.Grows (tree.makeDirectories place names).1 := by
  induction names with
  | nil => exact Grows.refl tree
  | cons last before ih =>
      unfold makeDirectories
      split
      · split
        · rename_i above fault made
          rw [made] at ih
          exact ih
        · rename_i above made
          rw [made] at ih
          exact ih.trans (grows_orThere fun _ => grows_makeDirectory)
      · exact grows_orThere fun _ => grows_makeDirectory

/-- A walk to a directory goes on to what a name stands for there. -/
theorem walk_into {tree : FileTree} {place before parent : List String} {last : String}
    (walked : tree.walk place before = .ok parent)
    (isDirectory : tree.entry? parent = some .directory) (moves : ¬(last = "." ∨ last = ".."))
    (fits : ¬maxNameLength < last.utf8ByteSize) (isFile : tree.IsFile (parent ++ [last])) :
    tree.walk place (before ++ [last]) = .ok (parent ++ [last]) := by
  rcases isFile with ⟨content, there⟩
  rcases not_or.mp moves with ⟨notHere, notUp⟩
  have stepped : tree.step parent last = .ok (parent ++ [last]) := by
    simp [step, isDirectory_iff.mpr isDirectory, notHere, notUp, fits, there]
  rw [walk_append, walked]
  simp only [Except.bind, walk, stepped, bind]

/-- A file that was opened stands in its place, its path leads there, and the tree only grew. -/
theorem openFile_ok {tree opened : FileTree} {path : PathName} {place : List String}
    (isOpened : tree.openFile path = .ok (opened, place)) :
    tree.Grows opened ∧ opened.LeadsTo path place ∧ opened.IsFile place := by
  unfold openFile at isOpened
  dsimp only at isOpened
  split at isOpened
  · cases isOpened
  split at isOpened
  · cases isOpened
  split at isOpened
  · cases isOpened
  rename_i last before reversed
  have names : path.names = before.reverse ++ [last] := by
    rw [← List.reverse_reverse path.names, reversed, List.reverse_cons]
  rcases bind_eq_ok_iff.mp isOpened with ⟨parent, walkedTo, isOpened⟩
  rcases walkToDirectory_eq_ok_iff.mp walkedTo with ⟨walked, isDirectory⟩
  split at isOpened
  · cases isOpened
  rename_i opens
  have moves : ¬(last = "." ∨ last = "..") := fun idle => opens (by tauto)
  rcases bind_eq_ok_iff.mp isOpened with ⟨⟨found, there⟩, slotted, isOpened⟩
  rcases slot_eq_ok_iff.mp slotted with ⟨fits, rfl, isThere⟩
  -- The file is there already, or it is made in a free place.
  rcases there with _ | _ | content
  · cases isOpened
    have notRoot : parent ++ [last] ≠ [] := by simp
    have grows : tree.Grows (tree.put (parent ++ [last]) (.file [])) :=
      grows_put notRoot isThere.symm (Or.inr rfl)
    have isFile : (tree.put (parent ++ [last]) (.file [])).IsFile (parent ++ [last]) :=
      ⟨[], by simp [entry?_put tree notRoot]⟩
    refine ⟨grows, ?_, isFile⟩
    rw [LeadsTo, names]
    exact walk_into (grows.keeps.walk_eq walked) (grows.keeps.directory parent isDirectory) moves
      fits isFile
  · cases isOpened
    have isFile : tree.IsFile (parent ++ [last]) := ⟨_, isThere.symm⟩
    refine ⟨Grows.refl tree, ?_, isFile⟩
    rw [LeadsTo, names]
    exact walk_into walked isDirectory moves fits isFile
  · cases isOpened

/-- Opening a file only grows the tree, and where it succeeds the path leads to the file. -/
theorem openForAppend_grows (tree : FileTree) (path : PathName) :
    tree.Grows (tree.openForAppend path).1 ∧
      ∀ place, (tree.openForAppend path).2 = .ok place →
        (tree.openForAppend path).1.LeadsTo path place ∧
          (tree.openForAppend path).1.IsFile place := by
  have madeAbove := grows_makeDirectories tree (tree.start path) path.moves.dropLast.reverse
  unfold openForAppend
  dsimp only
  split
  · exact ⟨Grows.refl tree, by simp⟩
  split
  · exact ⟨Grows.refl tree, by simp⟩
  split
  · rename_i above fault made
    rw [made] at madeAbove
    exact ⟨madeAbove, by simp⟩
  · rename_i above made
    rw [made] at madeAbove
    split
    · rename_i opened found isOpened
      rcases openFile_ok isOpened with ⟨grows, leads, isFile⟩
      refine ⟨madeAbove.trans grows, ?_⟩
      rintro place isPlace
      cases isPlace
      exact ⟨leads, isFile⟩
    · exact ⟨madeAbove, by simp⟩

/-! ## Writing to a file -/

theorem IsFile.ne_nil {tree : FileTree} {place : List String} (isFile : tree.IsFile place) :
    place ≠ [] := by
  rintro rfl
  rcases isFile with ⟨content, there⟩
  simp [FileTree.entry?] at there

theorem entry?_append {tree : FileTree} {place : List String} (isFile : tree.IsFile place)
    (bytes : Bytes) (other : List String) :
    entry? (tree.append place bytes) other =
      if other = place then some (.file (tree.bytes place ++ bytes)) else tree.entry? other := by
  rcases isFile with ⟨content, there⟩
  simp only [append, FileTree.bytes, there, entry?_put tree (IsFile.ne_nil ⟨content, there⟩)]

theorem bytes_append {tree : FileTree} {place : List String} (isFile : tree.IsFile place)
    (bytes : Bytes) (other : List String) :
    (tree.append place bytes).bytes other =
      tree.bytes other ++ if other = place then bytes else [] := by
  by_cases same : other = place
  · subst same
    rw [if_pos rfl, FileTree.bytes, entry?_append isFile, if_pos rfl]
  · rw [if_neg same, FileTree.bytes, entry?_append isFile, if_neg same, List.append_nil]
    rfl

theorem keeps_append {tree : FileTree} {place : List String} (isFile : tree.IsFile place)
    (bytes : Bytes) : tree.Keeps (tree.append place bytes) := by
  refine ⟨?_, ?_, ?_⟩
  · rcases isFile with ⟨content, there⟩
    simp only [append, there, put]
  · intro other isDirectory
    rw [entry?_append isFile]
    split
    · rename_i same
      rcases isFile with ⟨content, there⟩
      simp [same, there] at isDirectory
    · exact isDirectory
  · rintro other ⟨content, there⟩
    unfold IsFile
    rw [entry?_append isFile]
    split
    · exact ⟨_, rfl⟩
    · exact ⟨content, there⟩

end FileTree

end RangeServer
