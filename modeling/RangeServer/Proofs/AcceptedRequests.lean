import Mathlib
import RangeServer.Proofs.Words
import RangeServer.Service

/-!
# Requests that are accepted

What a client sends is bytes, and what the log shows of them is text. The texts of a request that
can be made at all keep to narrow classes of characters: method, path and query are words, and the
text of a header holds no control characters but tabs. For paths and queries this takes a look at
UTF-8, because only the ASCII characters of a text are among the bytes that spell it.
-/

namespace RangeServer

/-! ## Texts from bytes -/

namespace Utf8

theorem mem_of_mem_follow {low high count bits : Nat} {bytes : Bytes} {byte : UInt8}
    (mem : byte ∈ (follow low high count bits bytes).2) : byte ∈ bytes := by
  induction count generalizing low high bits bytes with
  | zero => exact mem
  | succ count ih =>
      cases bytes with
      | nil => exact mem
      | cons first rest =>
          unfold follow at mem
          split at mem
          · exact List.mem_cons_of_mem _ (ih mem)
          · exact mem

/-- The bounds of the byte behind the leading one bound the code point. -/
theorem follow_bounds {low high count bits value : Nat} {bytes : Bytes} (above : 0x80 ≤ low)
    (below : high ≤ 0xBF) (followed : (follow low high (count + 1) bits bytes).1 = some value) :
    (bits * 64 + low % 64) * 64 ^ count ≤ value ∧
      value < (bits * 64 + high % 64 + 1) * 64 ^ count := by
  induction count generalizing low high bits bytes with
  | zero =>
      cases bytes with
      | nil => simp [follow] at followed
      | cons byte rest =>
          simp only [follow] at followed
          split at followed
          · cases followed
            omega
          · cases followed
  | succ count ih =>
      cases bytes with
      | nil => simp [follow] at followed
      | cons byte rest =>
          unfold follow at followed
          split at followed
          · rename_i within
            have bounds := ih (by decide) (by decide) followed
            constructor
            · calc (bits * 64 + low % 64) * 64 ^ (count + 1)
                  ≤ (bits * 64 + byte.toNat % 64) * 64 ^ (count + 1) :=
                    Nat.mul_le_mul_right _ (by omega)
                _ = ((bits * 64 + byte.toNat % 64) * 64 + 0x80 % 64) * 64 ^ count := by ring
                _ ≤ value := bounds.1
            · calc value
                  < ((bits * 64 + byte.toNat % 64) * 64 + 0xBF % 64 + 1) * 64 ^ count := bounds.2
                _ = (bits * 64 + byte.toNat % 64 + 1) * 64 ^ (count + 1) := by ring
                _ ≤ (bits * 64 + high % 64 + 1) * 64 ^ (count + 1) :=
                    Nat.mul_le_mul_right _ (by omega)
          · cases followed

/-- A character of two bytes or more is a code point beyond ASCII. -/
theorem toNat_follow {byte : UInt8} {lead : Lead} (isLead : lead? byte.toNat = some lead)
    {bytes : Bytes} {value : Nat}
    (followed : (follow lead.low lead.high lead.following lead.bits bytes).1 = some value) :
    0x80 ≤ (Char.ofNat value).toNat := by
  have valid : value.isValidChar ∧ 0x80 ≤ value := by
    unfold lead? at isLead
    split_ifs at isLead <;> cases isLead
    all_goals
      dsimp only at followed
      have bounds := follow_bounds (by decide) (by decide) followed
      simp only [Nat.isValidChar] at bounds ⊢
      omega
  rw [Char.toNat_ofNat, if_pos valid.1]
  exact valid.2

theorem mem_of_mem_scan {bytes : Bytes} {c : Char} (mem : some c ∈ scan bytes)
    (ascii : c.toNat < 0x80) : UInt8.ofNat c.toNat ∈ bytes := by
  induction bytes using scan.induct with
  | case1 => simp [scan] at mem
  | case2 byte rest isAscii ih =>
      rw [scan, if_pos isAscii, List.mem_cons] at mem
      rcases mem with same | inRest
      · have value : c.toNat = byte.toNat := by
          rw [Option.some.inj same, Char.toNat_ofNat, if_pos (Or.inl (by omega))]
        rw [value, UInt8.ofNat_toNat]
        exact List.mem_cons_self
      · exact List.mem_cons_of_mem _ (ih inRest)
  | case3 byte rest notAscii noLead ih =>
      rw [scan, if_neg notAscii, noLead] at mem
      simp only [List.mem_cons, reduceCtorEq, false_or] at mem
      exact List.mem_cons_of_mem _ (ih mem)
  | case4 byte rest notAscii lead isLead _ ih =>
      rw [scan, if_neg notAscii, isLead] at mem
      simp only [List.mem_cons] at mem
      rcases mem with same | inRest
      -- A character of several bytes is beyond ASCII, so it is not the one looked for.
      · rcases Option.map_eq_some_iff.mp same.symm with ⟨value, followed, rfl⟩
        have beyond := toNat_follow isLead followed
        omega
      · exact List.mem_cons_of_mem _ (mem_of_mem_follow (ih inRest))

theorem eq_map_some_of_mapM {Value : Type} {items : List (Option Value)} {values : List Value}
    (all : items.mapM id = some values) : items = values.map some := by
  induction items generalizing values with
  | nil =>
      cases all
      rfl
  | cons item rest ih =>
      simp only [List.mapM_cons, id, Option.bind_eq_bind, Option.bind_eq_some_iff] at all
      rcases all with ⟨value, rfl, others, restAll, isValues⟩
      cases isValues
      rw [ih restAll, List.map_cons]

/-- The ASCII characters of a text are among the bytes that spell it. -/
theorem mem_of_decode? {bytes : Bytes} {text : String} (decoded : decode? bytes = some text)
    {c : Char} (mem : c ∈ text.toList) (ascii : c.toNat < 0x80) : UInt8.ofNat c.toNat ∈ bytes := by
  rcases Option.map_eq_some_iff.mp decoded with ⟨chars, spelled, rfl⟩
  apply mem_of_mem_scan _ ascii
  rw [eq_map_some_of_mapM spelled]
  exact List.mem_map_of_mem (by simpa using mem)

end Utf8

/-! ## Requests -/

theorem Ascii.isWord_of_isToken {name : String} (isToken : Ascii.isToken name = true) :
    IsWord name.toList := by
  intro c mem
  simp only [Ascii.isToken, Bool.and_eq_true, List.all_eq_true] at isToken
  have tokenChar := isToken.2 c mem
  by_contra low
  have characters : ∀ code < 0x21, isTokenChar (Char.ofNat code) = false := by decide
  have noToken := characters c.toNat (by omega)
  rw [Char.ofNat_toNat] at noToken
  rw [noToken] at tokenChar
  cases tokenChar

/-- The text of a header has no control characters but tabs. -/
theorem Ascii.visible_of_mem {bytes : List UInt8} {text : String}
    (isText : Ascii.visibleText? bytes = some text) {c : Char} (mem : c ∈ text.toList) :
    c = '\t' ∨ 0x20 ≤ c.toNat := by
  unfold Ascii.visibleText? at isText
  split at isText
  · rename_i visible
    cases isText
    simp only [String.toList_ofList, List.mem_map] at mem
    rcases mem with ⟨byte, isByte, rfl⟩
    have isVisible := List.all_eq_true.mp visible byte isByte
    by_cases low : byte.toNat < 0x20
    · left
      have controls : ∀ code < 0x20, isVisibleByte (UInt8.ofNat code) = true →
          Char.ofNat code = '\t' := by decide
      apply controls _ low
      rwa [UInt8.ofNat_toNat]
    · right
      have bound := byte.toNat_lt
      rw [Char.toNat_ofNat, if_pos (Or.inl (by omega))]
      omega
  · cases isText

namespace TargetReader

theorem isWord_of_textOf {bytes : Bytes} (high : ∀ byte ∈ bytes, 0x20 < byte.toNat)
    {text : String} (isText : textOf bytes = .ok text) : IsWord text.toList := by
  intro c mem
  unfold textOf at isText
  cases decoded : Utf8.decode? bytes with
  | none => simp [decoded] at isText
  | some found =>
      simp only [decoded, Except.ok.injEq] at isText
      subst isText
      by_cases ascii : c.toNat < 0x80
      · have isByte := high _ (Utf8.mem_of_decode? decoded mem ascii)
        rw [UInt8.toNat_ofNat'] at isByte
        omega
      · omega

/-- A class of bytes that leaves out the blank and the controls before it. -/
theorem high_of_isIn {isIn : UInt8 → Bool}
    (leftOut : ∀ code < 0x21, isIn (UInt8.ofNat code) = false) {byte : UInt8}
    (isByte : isIn byte = true) : 0x20 < byte.toNat := by
  by_contra low
  have out := leftOut byte.toNat (by omega)
  rw [UInt8.ofNat_toNat, isByte] at out
  cases out

theorem high_of_isPathByte {byte : UInt8} : isPathByte byte = true → 0x20 < byte.toNat :=
  high_of_isIn (by decide)

theorem high_of_isQueryByte {byte : UInt8} : isQueryByte byte = true → 0x20 < byte.toNat :=
  high_of_isIn (by decide)

end TargetReader

/-- Whether path and query are words. -/
def PathQuery.Unbroken (target : PathQuery) : Prop :=
  IsWord target.path.toList ∧ ∀ query ∈ target.query, IsWord query.toList

theorem TargetReader.unbroken_pathQuery {bytes : Bytes} {target : PathQuery}
    (isRead : pathQuery bytes = .ok target) : target.Unbroken := by
  unfold pathQuery at isRead
  simp only at isRead
  split at isRead
  · cases isRead
  rename_i pathBytes
  simp only [Bool.not_eq_true, Bool.not_eq_false', List.all_eq_true] at pathBytes
  have pathWord {path : String} (isPath : textOf _ = .ok path) : IsWord path.toList :=
    isWord_of_textOf (fun byte mem => high_of_isPathByte (pathBytes byte mem)) isPath
  split at isRead
  · rcases bind_eq_ok_iff.mp isRead with ⟨path, isPath, isTarget⟩
    cases isTarget
    exact ⟨pathWord isPath, by simp⟩
  · split at isRead
    · cases isRead
    rename_i queryBytes
    simp only [Bool.not_eq_true, Bool.not_eq_false', List.all_eq_true] at queryBytes
    rcases bind_eq_ok_iff.mp isRead with ⟨path, isPath, isRest⟩
    rcases bind_eq_ok_iff.mp isRest with ⟨query, isQuery, isTarget⟩
    cases isTarget
    refine ⟨pathWord isPath, ?_⟩
    rintro _ ⟨⟩
    exact isWord_of_textOf (fun byte mem => high_of_isQueryByte (queryBytes byte mem)) isQuery

/-- Whether a request can be made from a method, the bytes of a target and headers. -/
def Request.Accepted (request : Request) : Prop :=
  ∃ method target version headers, Request.make method target version headers = .ok request

namespace RequestTarget

/-- Whether the path and the query of a target are words. -/
def Unbroken (target : RequestTarget) : Prop :=
  IsWord target.path.toList ∧ ∀ query ∈ target.query, IsWord query.toList

theorem unbroken_authorityAlone {bytes : Bytes} {target : RequestTarget}
    (isRead : TargetReader.authorityAlone bytes = .ok target) : target.Unbroken := by
  rcases bind_eq_ok_iff.mp isRead with ⟨⟨authority, rest⟩, -, isTarget⟩
  dsimp only at isTarget
  split_ifs at isTarget
  · cases isTarget
    exact ⟨isWord_nil, by simp [query]⟩

theorem unbroken_absoluteTarget {scheme : String} {bytes : Bytes} {target : RequestTarget}
    (isRead : TargetReader.absoluteTarget scheme bytes = .ok target) : target.Unbroken := by
  rcases bind_eq_ok_iff.mp isRead with ⟨⟨authority, rest⟩, -, isTarget⟩
  dsimp only at isTarget
  split at isTarget
  · cases isTarget
  rcases bind_eq_ok_iff.mp isTarget with ⟨behind, isBehind, isTarget⟩
  cases isTarget
  rcases TargetReader.unbroken_pathQuery isBehind with ⟨path, query⟩
  refine ⟨?_, query⟩
  simp only [RequestTarget.path]
  split
  · decide
  · exact path

theorem unbroken_of_read {bytes : Bytes} {target : RequestTarget}
    (isRead : RequestTarget.read bytes = .ok target) : target.Unbroken := by
  unfold RequestTarget.read at isRead
  split at isRead
  · cases isRead
  simp only at isRead
  split at isRead
  · cases isRead
  split at isRead
  · rcases bind_eq_ok_iff.mp isRead with ⟨origin, isOrigin, isTarget⟩
    cases isTarget
    exact TargetReader.unbroken_pathQuery isOrigin
  split at isRead
  · cases isRead
    exact ⟨by decide, by simp [query]⟩
  rcases bind_eq_ok_iff.mp isRead with ⟨_ | ⟨scheme, behind⟩, -, isTarget⟩
  · exact unbroken_authorityAlone isTarget
  · exact unbroken_absoluteTarget isTarget

theorem read_root : RequestTarget.read (Utf8.encode "/") = .ok (.origin ⟨"/", none⟩) := by
  have bytes : Utf8.encode "/" = [0x2F] := by decide
  have text : Utf8.decode? [0x2F] = some "/" := by simp [Utf8.decode?, Utf8.scan]
  have slash : TargetReader.byteOf '/' = 0x2F := by decide
  have path : TargetReader.pathQuery [0x2F] = .ok ⟨"/", none⟩ := by
    have isPath : TargetReader.isPathByte 0x2F = true := by decide
    simp [TargetReader.pathQuery, TargetReader.splitAt, TargetReader.byteOf, TargetReader.textOf,
      text, isPath, bind, Except.bind, pure, Except.pure]
  rw [bytes, RequestTarget.read]
  simp [slash, path, TargetReader.maxLength, bind, Except.bind, pure, Except.pure]

end RequestTarget

namespace Request

/-- A request is accepted if its target can be read and its headers can be grouped. -/
theorem Accepted.of_parts {method : Method} {bytes : Bytes} {target : RequestTarget}
    (isRead : RequestTarget.read bytes = .ok target) {headers : List (String × Bytes)}
    {map : Headers Bytes} (grouped : Headers.ofList isHeaderBytes headers = .ok map)
    (version : HttpVersion) : Accepted ⟨method, target, version, map⟩ := by
  refine ⟨method.name, bytes, version, headers, ?_⟩
  have named : Method.ofName? method.name = some method := dif_pos method.isToken
  rw [make, named, isRead, grouped]
  rfl

theorem Accepted.unbroken {request : Request} (accepted : request.Accepted) :
    request.target.Unbroken := by
  rcases accepted with ⟨method, target, version, headers, isMade⟩
  unfold make at isMade
  split at isMade
  · rcases bind_eq_ok_iff.mp isMade with ⟨read, isRead, isMade⟩
    rcases bind_eq_ok_iff.mp isMade with ⟨grouped, -, isMade⟩
    cases isMade
    cases found : RequestTarget.read target with
    | error fault => simp [found, Except.mapError] at isRead
    | ok parsed =>
        simp only [found, Except.mapError, Except.ok.injEq] at isRead
        subst isRead
        exact RequestTarget.unbroken_of_read found
  · cases isMade

end Request

/-! ## Entries -/

/-- Whether the texts of an entry that stand in common log lines without quotes of their own are
words. -/
structure AccessEntry.Tight (entry : AccessEntry) : Prop where
  address : IsWord entry.remoteAddress.toList
  method : IsWord entry.method.toList
  uri : IsWord entry.uri.toList
  version : IsWord entry.version.toList

theorem Service.tight_entry {delivery : Delivery} (accepted : delivery.request.Accepted)
    (reply : Reply) : (Service.entry delivery reply).Tight where
  address := delivery.peer.address.isWord_text
  method := Ascii.isWord_of_isToken delivery.request.method.isToken
  uri := by
    rcases accepted.unbroken with ⟨path, query⟩
    unfold AccessEntry.uri
    split
    · rename_i text isQuery
      simp only [String.toList_append, isWord_append]
      exact ⟨⟨path, by decide⟩, query text isQuery⟩
    · exact path
  version := by
    simp only [Service.entry]
    cases delivery.request.version <;> decide

end RangeServer
