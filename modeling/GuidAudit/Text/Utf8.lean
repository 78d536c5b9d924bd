import GuidAudit.Text.Units

namespace GuidAudit

def byteOrderMark : Char := '\ufeff'

def dropByteOrderMark : List Char → List Char
  | [] => []
  | c :: s => if c = byteOrderMark then s else c :: s

/-- Refuses bytes that encode no text; one leading byte order mark is dropped. -/
def decodeStrict? (bytes : ByteArray) : Option String :=
  (String.fromUTF8? bytes).map fun s => String.ofList (dropByteOrderMark s.toList)

def byteAt (bytes : ByteArray) (i : Nat) : Nat :=
  if h : i < bytes.size then bytes[i].toNat else 0

def isContinuation (b : Nat) : Bool := 0x80 ≤ b && b ≤ 0xBF

/-- Whether a second byte can follow the first byte of a longer sequence. -/
def canFollow (first second : Nat) : Bool :=
  if first == 0xE0 then 0xA0 ≤ second && second ≤ 0xBF
  else if first == 0xED then 0x80 ≤ second && second ≤ 0x9F
  else if first == 0xF0 then 0x90 ≤ second && second ≤ 0xBF
  else if first == 0xF4 then 0x80 ≤ second && second ≤ 0x8F
  else 0xE1 ≤ first && first ≤ 0xF3 && isContinuation second

/-- How many bytes of a broken sequence one replacement character stands for. -/
def brokenLength (bytes : ByteArray) (i : Nat) : Nat :=
  let first := byteAt bytes i
  if canFollow first (byteAt bytes (i + 1)) then
    if 0xF0 ≤ first && isContinuation (byteAt bytes (i + 2)) then 3 else 2
  else 1

/-- Every broken sequence is replaced, and a byte order mark is kept. -/
def decodeLenientFrom (bytes : ByteArray) (i : Nat) : List Char :=
  if i < bytes.size then
    match bytes.utf8DecodeChar? i with
    | some c => c :: decodeLenientFrom bytes (i + c.utf8Size)
    | none => replacementChar :: decodeLenientFrom bytes (i + brokenLength bytes i)
  else []
termination_by bytes.size - i
decreasing_by
  · have := c.utf8Size_pos
    omega
  · have : 0 < brokenLength bytes i := by
      simp only [brokenLength]
      split
      · split <;> omega
      · omega
    omega

def decodeLenient (bytes : ByteArray) : String := String.ofList (decodeLenientFrom bytes 0)

theorem decodeStrict?_toUTF8 (s : String) :
    decodeStrict? s.toUTF8 = some (String.ofList (dropByteOrderMark s.toList)) := by
  have h : String.fromUTF8? s.toByteArray = some s := by
    simp only [String.fromUTF8?, s.isValidUTF8, ↓reduceDIte]
    rfl
  simp only [decodeStrict?, String.toUTF8, h, Option.map_some]

theorem size_utf8Encode_singleton (c : Char) : [c].utf8Encode.size = c.utf8Size := by
  simp [List.utf8Encode, String.length_utf8EncodeChar]

theorem decodeLenientFrom_append (a : ByteArray) (s : List Char) :
    decodeLenientFrom (a ++ s.utf8Encode) a.size = s := by
  induction s generalizing a with
  | nil =>
    rw [decodeLenientFrom, if_neg]
    simp
  | cons c s ih =>
    have hc : (a ++ (c :: s).utf8Encode).utf8DecodeChar? a.size = some c := by
      rw [ByteArray.utf8DecodeChar?_eq_utf8DecodeChar?_extract,
        ByteArray.extract_append_eq_right rfl ByteArray.size_append]
      exact List.utf8DecodeChar?_utf8Encode_cons
    have hs : a.size < (a ++ (c :: s).utf8Encode).size := by
      have := c.utf8Size_pos
      rw [ByteArray.size_append, List.utf8Encode_cons, ByteArray.size_append,
        size_utf8Encode_singleton]
      omega
    have ha : a ++ (c :: s).utf8Encode = (a ++ [c].utf8Encode) ++ s.utf8Encode := by
      rw [List.utf8Encode_cons, ByteArray.append_assoc]
    have hi := ih (a ++ [c].utf8Encode)
    rw [ByteArray.size_append, size_utf8Encode_singleton, ← ha] at hi
    rw [decodeLenientFrom, if_pos hs]
    simp only [hc, hi]

/-- Text that was written comes back unchanged. -/
theorem decodeLenient_toUTF8 (s : String) : decodeLenient s.toUTF8 = s := by
  have h := decodeLenientFrom_append ByteArray.empty s.toList
  rw [ByteArray.empty_append, String.utf8Encode_toList] at h
  change String.ofList (decodeLenientFrom s.toByteArray ByteArray.empty.size) = s
  rw [h, String.ofList_toList]

end GuidAudit
