import RangeServer.Checked

/-!
# UTF-8

Text is written as UTF-8 bytes and read back. Reading cuts the bytes into characters and
ill-formed parts, each ill-formed part as long as it agrees with the start of some character;
strict reading refuses such parts and lossy reading shows each as U+FFFD.
-/

namespace RangeServer.Utf8

/-- The bytes of a text. -/
def encode (text : String) : Bytes := text.toList.flatMap String.utf8EncodeChar

theorem toByteArray_encode (text : String) : (encode text).toByteArray = text.toByteArray := by
  rw [← String.utf8Encode_toList]
  rfl

theorem length_encode (text : String) : (encode text).length = text.utf8ByteSize := by
  rw [← String.size_toByteArray, ← toByteArray_encode, List.size_toByteArray]

/-- An ASCII character is its own byte. -/
theorem encodeChar_of_ascii {c : Char} (ascii : c.toNat < 0x80) :
    String.utf8EncodeChar c = [UInt8.ofNat c.toNat] :=
  if_pos (Nat.le_of_lt_succ ascii)

/-- What a leading byte announces: its share of the code point, the bounds of the byte after it
and how many bytes follow. -/
structure Lead where
  bits : Nat
  low : Nat
  high : Nat
  following : Nat
  deriving DecidableEq, Repr

/-- The announcement of a byte that starts a character of two, three or four bytes. Bounds on the
second byte keep out overlong forms, surrogates and code points past U+10FFFF. -/
def lead? (byte : Nat) : Option Lead :=
  if 0xC2 ≤ byte ∧ byte ≤ 0xDF then some ⟨byte % 32, 0x80, 0xBF, 1⟩
  else if byte = 0xE0 then some ⟨0, 0xA0, 0xBF, 2⟩
  else if byte = 0xED then some ⟨13, 0x80, 0x9F, 2⟩
  else if 0xE1 ≤ byte ∧ byte ≤ 0xEF then some ⟨byte % 16, 0x80, 0xBF, 2⟩
  else if byte = 0xF0 then some ⟨0, 0x90, 0xBF, 3⟩
  else if 0xF1 ≤ byte ∧ byte ≤ 0xF3 then some ⟨byte % 8, 0x80, 0xBF, 3⟩
  else if byte = 0xF4 then some ⟨4, 0x80, 0x8F, 3⟩
  else none

/-- The code point completed by `count` following bytes, the first of them within the bounds, and
the bytes left over; without a code point when a byte does not fit. -/
def follow (low high : Nat) : Nat → Nat → Bytes → Option Nat × Bytes
  | 0, bits, rest => (some bits, rest)
  | _ + 1, _, [] => (none, [])
  | count + 1, bits, byte :: rest =>
    if low ≤ byte.toNat ∧ byte.toNat ≤ high then
      follow 0x80 0xBF count (bits * 64 + byte.toNat % 64) rest
    else (none, byte :: rest)

theorem length_follow_le (low high count bits : Nat) (bytes : Bytes) :
    (follow low high count bits bytes).2.length ≤ bytes.length := by
  induction count generalizing low high bits bytes with
  | zero => simp [follow]
  | succ count ih =>
    cases bytes with
    | nil => simp [follow]
    | cons byte rest =>
      simp only [follow]
      split
      · exact Nat.le_trans (ih ..) (by simp)
      · simp

/-- The characters that the bytes spell, with `none` for each ill-formed part. -/
def scan : Bytes → List (Option Char)
  | [] => []
  | byte :: rest =>
    if byte.toNat < 0x80 then some (Char.ofNat byte.toNat) :: scan rest
    else match lead? byte.toNat with
      | none => none :: scan rest
      | some lead =>
        have := length_follow_le lead.low lead.high lead.following lead.bits rest
        (follow lead.low lead.high lead.following lead.bits rest).1.map Char.ofNat ::
          scan (follow lead.low lead.high lead.following lead.bits rest).2
  termination_by bytes => bytes.length
  decreasing_by
    · simp
    · simp
    · simp only [List.length_cons]
      omega

/-- The text that the bytes spell, if they are well-formed. -/
def decode? (bytes : Bytes) : Option String := ((scan bytes).mapM id).map String.ofList

/-- The text that the bytes spell, with U+FFFD for each ill-formed part. -/
def decodeLossy (bytes : Bytes) : String :=
  String.ofList ((scan bytes).map (·.getD (Char.ofNat 0xFFFD)))

end RangeServer.Utf8
