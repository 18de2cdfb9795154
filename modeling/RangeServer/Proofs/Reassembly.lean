import RangeServer.Proofs.Replies

/-!
# Content fetched in parts

A client may fetch a content in chunks: it cuts it at points of its own choice, asks for each chunk
by its first and its last offset, and joins the bodies that come back. `Catalogue.fetched_cuts`
shows that the joined bodies are the content, wherever the cuts are. The last chunk may be asked for
past the end or with its end left open.

The proof goes chunk by chunk. `Catalogue.Fetched` relates the headers sent so far to the bytes that
came back, and asking for one more chunk moves the end of these bytes from one cut to the next.
-/

namespace RangeServer

/-! ## Cuts -/

/-- Points that cut a content of the given size into chunks, the last of them being numbered `last`.
Each chunk starts where the one before it stops. The chunks are not empty, they start within the
content, and the last of them stops at its end or past it. -/
structure Cuts (size : Nat) where
  point : Nat → Nat
  last : Nat
  starts : point 0 = 0
  increases : ∀ index ≤ last, point index < point (index + 1)
  within : point last < size
  covers : size ≤ point (last + 1)

namespace Cuts

variable {size : Nat} (cuts : Cuts size)

/-- The range of a chunk, from its first to its last offset. -/
def chunk (index : Nat) : RangeSpec :=
  ⟨cuts.point index, some (cuts.point (index + 1) - 1)⟩

/-- The range of a chunk, the end of the last one left open. -/
def openChunk (index : Nat) : RangeSpec :=
  if index = cuts.last then ⟨cuts.point index, none⟩ else cuts.chunk index

/-- The headers that ask for all chunks in order, each by a range of its own. -/
def headers (range : Nat → RangeSpec) : List String :=
  (List.range (cuts.last + 1)).map fun index => (range index).text

theorem point_le_last {index : Nat} (le : index ≤ cuts.last) :
    cuts.point index ≤ cuts.point cuts.last := by
  rcases Nat.exists_eq_add_of_le le with ⟨more, isLast⟩
  rw [isLast]
  have upTo : ∀ count ≤ more, cuts.point index ≤ cuts.point (index + count) := by
    intro count countLe
    induction count with
    | zero => exact Nat.le_refl _
    | succ count ih =>
        have increases := cuts.increases (index + count) (by omega)
        exact Nat.le_trans (ih (by omega)) (Nat.le_of_lt increases)
  exact upTo more (Nat.le_refl more)

theorem point_lt_size {index : Nat} (le : index ≤ cuts.last) : cuts.point index < size :=
  Nat.lt_of_le_of_lt (cuts.point_le_last le) cuts.within

theorem exactOutcome_chunk {index : Nat} (le : index ≤ cuts.last) (policy : PastEndPolicy) :
    (cuts.chunk index).exactOutcome size policy =
      .part ⟨cuts.point index, min (cuts.point (index + 1) - 1) (size - 1)⟩ := by
  have beforeEnd := cuts.point_lt_size le
  have notEmpty := cuts.increases index le
  unfold RangeSpec.exactOutcome chunk
  rw [if_neg (by simpa using beforeEnd), if_neg]
  · rfl
  · simp only [RangeSpec.exactLast]
    omega

theorem exactOutcome_open (policy : PastEndPolicy) :
    RangeSpec.exactOutcome ⟨cuts.point cuts.last, none⟩ size policy =
      .part ⟨cuts.point cuts.last, size - 1⟩ := by
  have beforeEnd := cuts.within
  unfold RangeSpec.exactOutcome
  rw [if_neg (by simpa using beforeEnd), if_neg]
  · rfl
  · simp only [RangeSpec.exactLast]
    omega

end Cuts

/-! ## Fetching -/

namespace Catalogue

/-- Whether asking for a path with one range header after the other gives a part each time, and
the parts in order give these bytes. -/
def Fetched (catalogue : Catalogue) (path : String) (policy : PastEndPolicy)
    (headers : List String) (bytes : Bytes) : Prop :=
  ∃ replies, headers.mapM (fun header => catalogue.reply path (some header) policy) = .ok replies ∧
    (∀ reply ∈ replies, reply.status = .partialContent) ∧
    replies.flatMap (·.body) = bytes

variable {catalogue : Catalogue} {path : String} {policy : PastEndPolicy}

theorem fetched_nil : catalogue.Fetched path policy [] [] :=
  ⟨[], rfl, by simp, rfl⟩

theorem Fetched.append {headers : List String} {bytes : Bytes}
    (fetched : catalogue.Fetched path policy headers bytes) {header : String} {reply : Reply}
    (asked : catalogue.reply path (some header) policy = .ok reply)
    (isPart : reply.status = .partialContent) :
    catalogue.Fetched path policy (headers ++ [header]) (bytes ++ reply.body) := by
  rcases fetched with ⟨replies, answered, areParts, joined⟩
  refine ⟨replies ++ [reply], ?_, ?_, ?_⟩
  · simp [answered, asked, bind, Except.bind, pure, Except.pure]
  · intro other mem
    rcases List.mem_append.mp mem with old | new
    · exact areParts other old
    · rw [List.mem_singleton.mp new]
      exact isPart
  · simp [joined]

/-- Ranges that ask for one chunk each, between its cut and the next, fetch the whole content. -/
theorem fetched_headers (inMemory : catalogue.InMemory) {resource : Resource}
    (first : catalogue.FirstUnder path resource) (cuts : Cuts resource.size)
    {range : Nat → RangeSpec}
    (asks : ∀ index ≤ cuts.last, ∃ stop,
      (range index).exactOutcome resource.size policy = .part ⟨cuts.point index, stop⟩ ∧
      stop + 1 = min (cuts.point (index + 1)) resource.size) :
    catalogue.Fetched path policy (cuts.headers range) resource.content := by
  -- After each chunk, the bytes fetched are those in front of the cut where it stops.
  have upTo : ∀ count ≤ cuts.last + 1, catalogue.Fetched path policy
      ((List.range count).map fun index => (range index).text)
      (resource.content.take (cuts.point count)) := by
    intro count countLe
    induction count with
    | zero =>
        rw [cuts.starts]
        exact fetched_nil
    | succ count ih =>
        rcases asks count (by omega) with ⟨stop, outcome, stops⟩
        have asked := reply_of_spells inMemory first (range count).spells_text policy
        rw [outcome] at asked
        have step := (ih (by omega)).append asked rfl
        have increases := cuts.increases count (by omega)
        have within : cuts.point count < resource.size := cuts.point_lt_size (by omega)
        rw [Reply.exact, Reply.take_append_body_cut resource (by omega), stops] at step
        rw [List.range_succ, List.map_append, List.take_eq_take_min]
        exact step
  have all := upTo (cuts.last + 1) (Nat.le_refl _)
  rw [List.take_of_length_le cuts.covers] at all
  exact all

/-- However a content is cut, asking for its chunks gives a part each time and the parts in order
are the content, whether the last chunk is asked for by its end or with its end left open. -/
theorem fetched_cuts (inMemory : catalogue.InMemory) {resource : Resource}
    (first : catalogue.FirstUnder path resource) (cuts : Cuts resource.size) :
    catalogue.Fetched path policy (cuts.headers cuts.chunk) resource.content ∧
      catalogue.Fetched path policy (cuts.headers cuts.openChunk) resource.content := by
  have closedAsks : ∀ index ≤ cuts.last, ∃ stop,
      (cuts.chunk index).exactOutcome resource.size policy = .part ⟨cuts.point index, stop⟩ ∧
      stop + 1 = min (cuts.point (index + 1)) resource.size := by
    intro index le
    have beforeEnd := cuts.point_lt_size le
    have increases := cuts.increases index le
    exact ⟨_, cuts.exactOutcome_chunk le policy, by omega⟩
  constructor
  · exact fetched_headers inMemory first cuts closedAsks
  · apply fetched_headers inMemory first cuts
    intro index le
    unfold Cuts.openChunk
    split
    · rename_i isLast
      have covers := cuts.covers
      have within := cuts.within
      subst isLast
      exact ⟨_, cuts.exactOutcome_open policy, by omega⟩
    · exact closedAsks index le

/-- Five bytes in chunks of two, the last of which would stop past the end. -/
theorem fetched_cuts_past_end :
    let catalogue : Catalogue := ⟨[("/a", ⟨[1, 2, 3, 4, 5], "text/plain"⟩)]⟩
    catalogue.InMemory ∧ catalogue.FirstUnder "/a" ⟨[1, 2, 3, 4, 5], "text/plain"⟩ ∧
      ∃ cuts : Cuts 5, cuts.point = (2 * ·) ∧
        catalogue.Fetched "/a" .collapse (cuts.headers cuts.chunk) [1, 2, 3, 4, 5] ∧
        catalogue.Fetched "/a" .collapse (cuts.headers cuts.openChunk) [1, 2, 3, 4, 5] := by
  intro catalogue
  have inMemory : catalogue.InMemory := by decide
  have first : catalogue.FirstUnder "/a" ⟨[1, 2, 3, 4, 5], "text/plain"⟩ :=
    ⟨[], [], rfl, by simp⟩
  let cuts : Cuts 5 :=
    { point := (2 * ·)
      last := 2
      starts := rfl
      increases := fun index _ => by omega
      within := by decide
      covers := by decide }
  exact ⟨inMemory, first, cuts, rfl, fetched_cuts inMemory first cuts⟩

end Catalogue

end RangeServer
