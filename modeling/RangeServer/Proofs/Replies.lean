import RangeServer.Http.Reply
import RangeServer.Proofs.RangeReading

/-!
# Replies without faults

On the way from a range header to a reply, a difference, two sums and a slice can fault. All four
hang on one invariant: the window that reading gives lies within the content that it was read for.
The invariant is derived here from the rule of `RangeSpec.exactOutcome`. With it each step of a
reply has a value, and `Reply.ofOutcome_eq` gives the whole reply without a fault in sight.

A content is held in memory, so that a word counts its bytes. `Catalogue.InMemory` says so of all
contents that a catalogue offers.
-/

namespace RangeServer

/-! ## Windows within the content -/

/-- Each step from a window to the bytes that it covers has a value. -/
structure ByteWindow.Servable (window : ByteWindow) (content : Bytes) : Prop where
  within : window.Within content.length
  span : window.span = .ok (window.last - window.first + 1)
  stop : Checked.add window.last 1 = .ok (window.last + 1)
  slice : Checked.slice content window.first (window.last + 1) =
    .ok ((content.take (window.last + 1)).drop window.first)

theorem ByteWindow.servable_of_within {window : ByteWindow} {content : Bytes}
    (within : window.Within content.length) (fits : content.length ≤ maxWord) :
    window.Servable content := by
  have ordered := within.1
  have beforeEnd := within.2
  have difference : Checked.sub window.last window.first = .ok (window.last - window.first) :=
    Checked.sub_of_le ordered
  have sum : Checked.add (window.last - window.first) 1 = .ok (window.last - window.first + 1) :=
    Checked.add_of_le (by omega)
  refine ⟨within, ?_, ?_, ?_⟩
  · rw [ByteWindow.span, difference]
    exact sum
  · exact Checked.add_of_le (by omega)
  · exact Checked.slice_of_le (by omega) beforeEnd

/-- A window that a range asks for lies within the content, the collapsed one included. -/
theorem RangeSpec.within_of_exactOutcome {spec : RangeSpec} {length : Nat}
    {policy : PastEndPolicy} {window : ByteWindow}
    (part : spec.exactOutcome length policy = .part window) : window.Within length := by
  unfold exactOutcome at part
  split at part
  · split at part
    · rename_i collapses
      cases part
      exact ⟨Nat.le_refl 0, collapses.2⟩
    · simp at part
  · rename_i beforeEnd
    split at part
    · simp at part
    · rename_i ordered
      cases part
      exact ⟨Nat.le_of_not_lt ordered, spec.exactLast_lt (by omega)⟩

namespace RangeOutcome

/-- Whether the window of an outcome, if it has one, lies within content of the given length. -/
def Within (length : Nat) : RangeOutcome → Prop
  | .part window => window.Within length
  | _ => True

/-- Reading a header never faults, and a window that it gives lies within the content. -/
theorem ofHeader_within (header : Option String) (length : Nat) (policy : PastEndPolicy) :
    ∃ outcome, ofHeader header length policy = .ok outcome ∧ outcome.Within length := by
  unfold ofHeader
  cases header.bind RangeSpec.read? with
  | none => exact ⟨.whole, rfl, trivial⟩
  | some spec =>
      refine ⟨_, spec.resolve_eq length policy, ?_⟩
      cases outcome : spec.exactOutcome length policy with
      | whole => trivial
      | part window => exact RangeSpec.within_of_exactOutcome outcome
      | unsatisfiable => trivial

end RangeOutcome

/-! ## Exact replies -/

namespace Reply

/-- The reply with the bytes between two offsets, both included. -/
def cut (resource : Resource) (window : ByteWindow) : Reply where
  status := .partialContent
  headers :=
    [("Content-Type", resource.mediaType),
      ("Accept-Ranges", "bytes"),
      ("Content-Range", contentRange window resource.size),
      ("Content-Length", Decimal.text (window.last - window.first + 1))]
  body := (resource.content.take (window.last + 1)).drop window.first

/-- The reply that an outcome calls for. -/
def exact (resource : Resource) : RangeOutcome → Reply
  | .whole => whole resource
  | .part window => cut resource window
  | .unsatisfiable => unsatisfiable resource.size

theorem part_of_within {resource : Resource} {window : ByteWindow}
    (within : window.Within resource.size) (fits : resource.size ≤ maxWord) :
    part resource window = .ok (cut resource window) := by
  have servable := ByteWindow.servable_of_within within fits
  simp only [part, servable.span, servable.stop, servable.slice, bind, Except.bind, pure,
    Except.pure, cut]

theorem ofOutcome_eq {resource : Resource} {outcome : RangeOutcome}
    (within : outcome.Within resource.size) (fits : resource.size ≤ maxWord) :
    ofOutcome resource outcome = .ok (exact resource outcome) := by
  cases outcome with
  | whole => rfl
  | part window => exact part_of_within within fits
  | unsatisfiable => rfl

theorem body_cut (resource : Resource) (window : ByteWindow) :
    (cut resource window).body =
      (resource.content.drop window.first).take (window.last + 1 - window.first) :=
  List.drop_take ..

/-- The bytes in front of a window and the bytes of the window are those up to its end. -/
theorem take_append_body_cut (resource : Resource) {first last : Nat} (ordered : first ≤ last + 1) :
    resource.content.take first ++ (cut resource ⟨first, last⟩).body =
      resource.content.take (last + 1) := by
  have front : resource.content.take first = (resource.content.take (last + 1)).take first := by
    rw [List.take_take, Nat.min_eq_left ordered]
  rw [front]
  exact List.take_append_drop ..

theorem length_body_cut {resource : Resource} {window : ByteWindow}
    (within : window.Within resource.size) :
    (cut resource window).body.length = window.last - window.first + 1 := by
  rcases within with ⟨ordered, beforeEnd⟩
  unfold Resource.size at beforeEnd
  simp only [cut, List.length_drop, List.length_take]
  omega

end Reply

/-! ## The catalogue -/

namespace Catalogue

/-- Whether a word counts the bytes of each content, as it does for all that memory holds. -/
def InMemory (catalogue : Catalogue) : Prop :=
  ∀ entry ∈ catalogue.entries, entry.2.size ≤ maxWord

instance (catalogue : Catalogue) : Decidable catalogue.InMemory :=
  inferInstanceAs (Decidable (∀ _ ∈ _, _))

/-- Whether a resource is the first that was registered under a path. -/
def FirstUnder (catalogue : Catalogue) (path : String) (resource : Resource) : Prop :=
  ∃ earlier later, catalogue.entries = earlier ++ (path, resource) :: later ∧
    path ∉ earlier.map (·.1)

theorem lookup_eq_some_iff {catalogue : Catalogue} {path : String} {resource : Resource} :
    catalogue.lookup path = some resource ↔ catalogue.FirstUnder path resource := by
  simp only [lookup, Option.map_eq_some_iff, List.find?_eq_some_iff_append, FirstUnder]
  constructor
  · rintro ⟨⟨name, found⟩, ⟨named, earlier, later, parted, others⟩, rfl⟩
    rcases eq_of_beq named with rfl
    refine ⟨earlier, later, parted, ?_⟩
    intro mem
    rcases List.mem_map.mp mem with ⟨entry, entryMem, sameName⟩
    simpa [sameName] using others entry entryMem
  · rintro ⟨earlier, later, parted, notEarlier⟩
    refine ⟨(path, resource), ⟨by simp, earlier, later, parted, ?_⟩, rfl⟩
    intro entry entryMem
    have otherName : entry.1 ≠ path := by
      rintro rfl
      exact notEarlier (List.mem_map_of_mem entryMem)
    simpa using otherName

theorem lookup_eq_none_iff {catalogue : Catalogue} {path : String} :
    catalogue.lookup path = none ↔ path ∉ catalogue.paths := by
  simp only [lookup, Option.map_eq_none_iff, List.find?_eq_none, paths, List.mem_map, beq_iff_eq]
  constructor
  · rintro noneNamed ⟨entry, entryMem, named⟩
    exact noneNamed entry entryMem named
  · intro unregistered entry entryMem named
    exact unregistered ⟨entry, entryMem, named⟩

theorem FirstUnder.mem_entries {catalogue : Catalogue} {path : String} {resource : Resource}
    (first : catalogue.FirstUnder path resource) : (path, resource) ∈ catalogue.entries := by
  rcases first with ⟨earlier, later, parted, -⟩
  simp [parted]

theorem FirstUnder.mem_paths {catalogue : Catalogue} {path : String} {resource : Resource}
    (first : catalogue.FirstUnder path resource) : path ∈ catalogue.paths :=
  List.mem_map.mpr ⟨_, first.mem_entries, rfl⟩

/-- The reply for a registered path is the one that the outcome of reading the header calls for. -/
theorem reply_of_firstUnder {catalogue : Catalogue} (inMemory : catalogue.InMemory)
    {path : String} {resource : Resource} (first : catalogue.FirstUnder path resource)
    {range : Option String} {policy : PastEndPolicy} {outcome : RangeOutcome}
    (isRead : RangeOutcome.ofHeader range resource.size policy = .ok outcome) :
    catalogue.reply path range policy = .ok (.exact resource outcome) := by
  rcases RangeOutcome.ofHeader_within range resource.size policy with ⟨found, foundRead, within⟩
  rw [isRead] at foundRead
  rcases Except.ok.inj foundRead with rfl
  have fits : resource.size ≤ maxWord := inMemory _ first.mem_entries
  simp only [reply, lookup_eq_some_iff.mpr first, isRead, bind, Except.bind]
  exact Reply.ofOutcome_eq within fits

theorem reply_of_spells {catalogue : Catalogue} (inMemory : catalogue.InMemory)
    {path : String} {resource : Resource} (first : catalogue.FirstUnder path resource)
    {header : String} {spec : RangeSpec} (spells : RangeSpec.Spells header.toList spec)
    (policy : PastEndPolicy) :
    catalogue.reply path (some header) policy =
      .ok (.exact resource (spec.exactOutcome resource.size policy)) := by
  have fits : resource.size ≤ maxWord := inMemory _ first.mem_entries
  exact reply_of_firstUnder inMemory first (RangeOutcome.ofHeader_of_spells spells fits policy)

theorem reply_of_unregistered {catalogue : Catalogue} {path : String}
    (unregistered : path ∉ catalogue.paths) (range : Option String) (policy : PastEndPolicy) :
    catalogue.reply path range policy = .ok (.notFound path) := by
  rw [reply, lookup_eq_none_iff.mpr unregistered]

/-- A path is not registered, or one resource is the first under it. -/
theorem unregistered_or_firstUnder (catalogue : Catalogue) (path : String) :
    path ∉ catalogue.paths ∨ ∃ resource, catalogue.FirstUnder path resource := by
  cases found : catalogue.lookup path with
  | none => exact Or.inl (lookup_eq_none_iff.mp found)
  | some resource => exact Or.inr ⟨resource, lookup_eq_some_iff.mp found⟩

end Catalogue

end RangeServer
