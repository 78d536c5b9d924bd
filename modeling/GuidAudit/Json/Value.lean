import GuidAudit.Text.Basic
import GuidAudit.Text.Units

namespace GuidAudit.Json

/-- The quotient of two numbers, rounded to the nearest whole one, and to an even one in between. -/
def roundedQuotient (a b : Nat) : Nat :=
  let q := a / b
  let r := 2 * (a % b)
  if b < r ∨ b = r ∧ q % 2 = 1 then q + 1 else q

/-- A number in binary: a whole number, scaled by a power of two. -/
structure Binary where
  mantissa : Nat
  exponent : Int
  deriving DecidableEq, Repr

/-- Numerator and denominator of a number that is scaled by a power of the base. -/
def scaled (base n : Nat) (exponent : Int) : Nat × Nat :=
  if 0 ≤ exponent then (n * base.pow exponent.toNat, 1) else (n, base.pow (-exponent).toNat)

/-- The double that is nearest to a positive fraction, unless all of them are too small. -/
def nearestDouble? (numerator denominator : Nat) : Option Binary :=
  let magnitude : Int := numerator.log2 - denominator.log2
  let (a, b) := scaled 2 numerator (-magnitude)
  let top : Int := if b * denominator ≤ a then magnitude else magnitude - 1
  let exponent := if top < -1022 then -1074 else top - 52
  let (a, b) := scaled 2 numerator (-exponent)
  let mantissa := roundedQuotient a (b * denominator)
  let rounded : Binary :=
    if mantissa = 0x20000000000000 then ⟨0x10000000000000, exponent + 1⟩
    else ⟨mantissa, exponent⟩
  if 971 < rounded.exponent then none else some rounded

/-- How many digits stand before the point. It is a negative number if zeros stand behind it. -/
def pointPlace (numerator denominator : Nat) : Int :=
  if denominator ≤ numerator then (Nat.toDigits 10 (numerator / denominator)).length
  else 1 - (Nat.toDigits 10 ((denominator - 1) / numerator)).length

/-- Of the numbers with so many digits, the nearest one that stands for the same double. -/
def digitsOf? (x : Binary) (count : Nat) : Option (Nat × Int) :=
  let (a, b) := scaled 2 x.mantissa x.exponent
  let exponent := pointPlace a b - count
  let (p, q) := scaled 10 a (-exponent)
  let low := p / (q * b)
  let isSame (n : Nat) : Bool :=
    let (a, b) := scaled 10 n exponent
    nearestDouble? a b = some x
  let nearest := roundedQuotient p (q * b)
  let other := if nearest = low then low + 1 else low
  if isSame nearest then some (nearest, exponent)
  else if isSame other then some (other, exponent)
  else none

/-- Seventeen digits are enough for every double. -/
def shortestDigits (x : Binary) : Nat × Int :=
  ((List.range 17).findSome? fun n => digitsOf? x (n + 1)).getD (x.mantissa, 0)

/-- Digits with the point at its place, or with an exponent where that would take many zeros. -/
def placedDigits (digits : List Char) (place : Int) : List Char :=
  let count : Int := digits.length
  if count ≤ place ∧ place ≤ 21 then digits ++ List.replicate (place - count).toNat '0'
  else if 0 < place ∧ place ≤ 21 then
    digits.take place.toNat ++ '.' :: digits.drop place.toNat
  else if -6 < place ∧ place ≤ 0 then
    '0' :: '.' :: List.replicate (-place).toNat '0' ++ digits
  else
    let fraction := if digits.tail.isEmpty then [] else '.' :: digits.tail
    let sign := if 0 < place then ['+'] else []
    digits.take 1 ++ fraction ++ 'e' :: sign ++ decimalChars (place - 1)

/-- A double as bare text, by the fewest digits that tell it from others. -/
def displayDouble (x : Binary) : List Char :=
  if x.mantissa = 0 then ['0']
  else
    let (n, exponent) := shortestDigits x
    let digits := Nat.toDigits 10 n
    placedDigits (digits.reverse.dropWhile (· == '0')).reverse (digits.length + exponent)

/-- A number as bare text. It is read as a double, which may be none or zero. -/
def displayNumber (coefficient exponent : Int) : List Char :=
  let n := coefficient.natAbs
  let magnitude := (Nat.toDigits 10 n).length + exponent
  let sign := if coefficient < 0 then ['-'] else []
  if n = 0 ∨ magnitude < -330 then ['0']
  else if 310 < magnitude then sign ++ "Infinity".toList
  else
    let (a, b) := scaled 10 n exponent
    match nearestDouble? a b with
    | none => sign ++ "Infinity".toList
    | some x => if x.mantissa = 0 then ['0'] else sign ++ displayDouble x

/-- A number is its coefficient times a power of ten. An object keeps all members as written,
repeated names included. -/
inductive Value where
  | null
  | bool (b : Bool)
  | number (coefficient exponent : Int)
  | string (text : UnitText)
  | array (items : List Value)
  | object (members : List (UnitText × Value))
  deriving Inhabited

def Value.int (n : Int) : Value := .number n 0

def Value.nat (n : Nat) : Value := .number n 0

/-- Of several members of one name the last counts. -/
def member? (name : UnitText) (members : List (UnitText × Value)) : Option Value :=
  members.reverse.lookup name

def Value.isNull : Value → Bool
  | .null => true
  | _ => false

/-- All objects show the same text, except that one with a member of this name shows none. -/
def displayMember : String := "toString"

def undisplayable : String := "Cannot convert object to primitive value"

mutual

/-- A value as bare text: strings unquoted and items joined by commas, where a null leaves its
place empty. -/
def Value.display? : Value → Option UnitText
  | .null => some "null"
  | .bool true => some "true"
  | .bool false => some "false"
  | .number c e => some (String.ofList (displayNumber c e))
  | .string text => some text
  | .array items => (displayItems? items).map (UnitText.intercalate ",")
  | .object members =>
    if (member? displayMember members).isSome then none else some "[object Object]"

def displayItems? : List Value → Option (List UnitText)
  | [] => some []
  | v :: vs =>
    match if v.isNull then some ⟨[]⟩ else v.display?, displayItems? vs with
    | some text, some texts => some (text :: texts)
    | _, _ => none

end

/-- Four digits behind a backslash. -/
def escapeUnit (n : Nat) : List Char :=
  ['\\', 'u', Nat.digitChar (n / 4096), Nat.digitChar (n / 256 % 16), Nat.digitChar (n / 16 % 16),
    Nat.digitChar (n % 16)]

/-- Quotes, backslashes and control characters are escaped, and no other characters are. -/
def escapeChar (c : Char) : List Char :=
  match c with
  | '"' => ['\\', '"']
  | '\\' => ['\\', '\\']
  | '\x08' => ['\\', 'b']
  | '\t' => ['\\', 't']
  | '\n' => ['\\', 'n']
  | '\x0c' => ['\\', 'f']
  | '\r' => ['\\', 'r']
  | c => if c < ' ' then escapeUnit c.toNat else [c]

/-- A surrogate without its partner is escaped too. -/
def escapePiece : Piece → List Char
  | .char c => escapeChar c
  | .lone u => escapeUnit u.toNat

def quoted (text : UnitText) : List Char :=
  '"' :: (pieces text.units).flatMap escapePiece ++ ['"']

/-- Two blanks for each level. -/
def newLine (depth : Nat) : List Char := '\n' :: List.replicate (2 * depth) ' '

def numberChars (coefficient exponent : Int) : List Char :=
  decimalChars coefficient ++ if exponent = 0 then [] else 'e' :: decimalChars exponent

mutual

/-- The text of a value whose first line is already indented. -/
def Value.pretty (depth : Nat) : Value → List Char
  | .null => "null".toList
  | .bool true => "true".toList
  | .bool false => "false".toList
  | .number c e => numberChars c e
  | .string text => quoted text
  | .array [] => ['[', ']']
  | .array (v :: vs) =>
    '[' :: newLine (depth + 1) ++ v.pretty (depth + 1) ++ prettyItems (depth + 1) vs ++
      newLine depth ++ [']']
  | .object [] => ['{', '}']
  | .object ((n, v) :: ms) =>
    '{' :: newLine (depth + 1) ++ quoted n ++ [':', ' '] ++ v.pretty (depth + 1) ++
      prettyMembers (depth + 1) ms ++ newLine depth ++ ['}']

def prettyItems (depth : Nat) : List Value → List Char
  | [] => []
  | v :: vs => ',' :: newLine depth ++ v.pretty depth ++ prettyItems depth vs

def prettyMembers (depth : Nat) : List (UnitText × Value) → List Char
  | [] => []
  | (n, v) :: ms =>
    ',' :: newLine depth ++ quoted n ++ [':', ' '] ++ v.pretty depth ++ prettyMembers depth ms

end

def Value.render (v : Value) : String := String.ofList (v.pretty 0)

end GuidAudit.Json
