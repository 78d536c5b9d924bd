import GuidAudit.Host.Label
import GuidAudit.Text.Utf8

namespace GuidAudit

inductive PercentPart where
  | char (c : Char)
  | byte (b : UInt8)
  deriving DecidableEq, Repr

/-- A percent sign that no two digits follow stands for itself. -/
def percentParts : List Char → List PercentPart
  | '%' :: a :: b :: s =>
    match hexValue? a, hexValue? b with
    | some x, some y => .byte (UInt8.ofNat (x * 16 + y)) :: percentParts s
    | _, _ => .char '%' :: percentParts (a :: b :: s)
  | c :: s => .char c :: percentParts s
  | [] => []

def PercentPart.bytes : PercentPart → List UInt8
  | .char c => String.utf8EncodeChar c
  | .byte b => [b]

def percentBytes (s : List Char) : List UInt8 := (percentParts s).flatMap PercentPart.bytes

/-- The text of bytes that are given from the last one on. Those at the end that continue a
character, but belong to none, do not count. -/
def textFromEnd? : List UInt8 → Option (List Char)
  | [] => some []
  | b :: r =>
    match String.fromUTF8? ⟨(b :: r).reverse.toArray⟩ with
    | some s => some s.toList
    | none => if isContinuation b.toNat then textFromEnd? r else none

/-- Refuses bytes that encode no text, wherever they count. -/
def percentDecode? (s : List Char) : Option (List Char) := textFromEnd? (percentBytes s).reverse

/-- Refuses also a percent sign that stands for itself, and counts all bytes. -/
def percentDecodeStrict? (s : List Char) : Option (List Char) :=
  if (percentParts s).contains (.char '%') then none
  else (String.fromUTF8? ⟨(percentBytes s).toArray⟩).map String.toList

/-- A part of a dotted address: hexadecimal after `0x`, octal after another zero. -/
def addressPart? : List Char → Option Nat
  | [] => none
  | '0' :: 'x' :: s => numberIn? 16 s 0
  | '0' :: s => numberIn? 8 s 0
  | s => numberIn? 10 s 0

/-- The parts of a dotted address, the last one first. One dot may follow the last. -/
def addressParts (s : List Char) : List (List Char) :=
  match (cutAt (· == '.') s).reverse with
  | [] :: part :: parts => part :: parts
  | parts => parts

/-- A host whose last part is a number is an address. -/
def endsInNumber (s : List Char) : Bool :=
  match addressParts s with
  | [] => false
  | part :: _ => (!part.isEmpty && part.all Char.isDigit) || (addressPart? part).isSome

/-- How many values are left for the last part after so many others. -/
def addressSpace : Nat → Nat
  | 0 => 0x100000000
  | 1 => 0x1000000
  | 2 => 0x10000
  | _ => 0x100

def isBelow (bound : Nat) : Option Nat → Bool
  | some n => n < bound
  | none => false

/-- Up to four numbers. All but the last fill one byte, and the last fills the others. -/
def isDottedAddress (s : List Char) : Bool :=
  match addressParts s with
  | [] => false
  | part :: parts =>
    parts.length < 4 && isBelow (addressSpace parts.length) (addressPart? part) &&
      parts.all fun p => isBelow 0x100 (addressPart? p)

/-- A number below 256 without zeros in front. -/
def isPlainByte (s : List Char) : Bool :=
  match s with
  | [] => false
  | c :: r => (c != '0' || r.isEmpty) && s.all Char.isDigit && ofDigits s < 0x100

def isPlainAddress (s : List Char) : Bool :=
  let parts := cutAt (· == '.') s
  parts.length == 4 && parts.all isPlainByte

/-- How many of the groups of an address a piece of it fills. Four bytes with dots between them
can stand for the last two groups. -/
def pieceGroups? (last : Bool) (piece : List Char) : Option Nat :=
  if !piece.isEmpty && piece.length ≤ 4 && piece.all (fun c => (hexValue? c).isSome) then some 1
  else if last && isPlainAddress piece then some 2
  else none

def pieceListGroups? (last : Bool) : List (List Char) → Option Nat
  | [] => some 0
  | [piece] => pieceGroups? last piece
  | piece :: pieces =>
    match pieceGroups? false piece, pieceListGroups? last pieces with
    | some m, some n => some (m + n)
    | _, _ => none

/-- How many groups stand between colons. -/
def groups? (last : Bool) (s : List Char) : Option Nat :=
  if s.isEmpty then some 0 else pieceListGroups? last (cutAt (· == ':') s)

/-- What stands before and after the first two colons in a row. -/
def cutAtColons? : List Char → Option (List Char × List Char)
  | [] => none
  | ':' :: ':' :: s => some ([], s)
  | c :: s => (cutAtColons? s).map fun (l, r) => (c :: l, r)

/-- Eight groups, of which two colons in a row leave out at least one. -/
def isGroupAddress (s : List Char) : Bool :=
  match cutAtColons? s with
  | none => groups? true s == some 8
  | some (l, r) =>
    match groups? false l, groups? true r with
    | some m, some n => m + n < 8
    | _, _ => false

/-- The characters that have a meaning of their own in a URL, and those that are not printed. -/
def isForbidden (c : Char) : Bool :=
  c.toNat ≤ 0x20 || c.toNat == 0x7F || "#%/:<>?@[\\]^|".toList.contains c

inductive Host where
  | here
  | elsewhere
  deriving DecidableEq, Repr

namespace Host

/-- The host of a name in its one spelling. -/
def ofName? (name : List Char) : Option Host :=
  if name.isEmpty || name.any isForbidden || !(cutAt (· == '.') name).all isLabel then none
  else if endsInNumber name then if isDottedAddress name then some .elsewhere else none
  else if name = "localhost".toList then some .here
  else some .elsewhere

/-- No host at all is this machine. -/
def ofText? (s : List Char) : Option Host :=
  match s with
  | [] => some .here
  | '[' :: r =>
    match before? [']'] r with
    | some address => if isGroupAddress address then some .elsewhere else none
    | none => none
  | s =>
    match (percentDecode? s).bind mapped? with
    | some name => ofName? (normalized name)
    | none => none

end Host

end GuidAudit
