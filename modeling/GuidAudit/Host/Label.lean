import GuidAudit.Host.Mapping

namespace GuidAudit

/-- So many marks after `m`, so many other characters after `n`. -/
def markLines : List String :=
  ["n300 m71 n112 m8 n106 m2D n1 m1 n1 m2 n1 m2 n1 m9 n40 mB n30 m15 n10 m1 n65 m8 n1 m6 n2 m2",
    "n1 m4 n23 m1 n1E m1D n59 mB n3A m9 n9 m1 n18 m4 n1 m9 n1 m3 n1 m7 n29 m5 n75 m31 n36 m3 n1",
    "m12 n1 mF n2 m2 n1D m4 n37 m1 n1 m10 n9 m9 n2 m4 n18 m7 n37 m20 n14 m2 n3 m1 nB m4 n37 m1",
    "n1 m12 n12 m4 n14 mB n37 m1 n1 m21 n3 m4 n1C m1 n3B m12 n7 mF n1A m5 n39 m1A nA m4 n1B m3",
    "n38 m1 n1 m1F n5 m4 n1A m4 n37 m2 n1 m10 n9 m1 nA m4 n1B m4 n45 m1C nC m2 n3D m1 n2 mB n8",
    "m8 n62 m1 n2 m9 nB m6 n4A m2 n1B m1 n1 m1 n1 m1 n4 m2 n31 m14 n1 m2 n5 m31 n8 m1 n64 m14",
    "n17 m4 n4 m3 n1 m3 n2 m7 n3 m4 nD mC n1 m1 nA m4 n2BF m3 n3B2 m3 n1D m3 n1D mE n12 mE n36",
    "m1E n9 m3 nA5 m2 n22 m1 n76 m20 nD7 m7 n37 m2B n30 m11 n3F m5 n2F m11 n26 m9 nC m3 n1E mD",
    "n38 m16 n28 m17 n95 m3 n1 m15 n4 m1 n6 m1 n2 m3 nC6 m3A n1 m6 n2CF m34 nBEB m4 n8C m1 n60",
    "m20 n22A m6 n69 m4 n75D2 m4 n1 mA n20 m2 n50 m2 n110 m1 n3 m1 n4 m1 n17 m5 n4 m4 n50 m2 n32",
    "m1A n12 m12 nD m1 n26 m8 n19 m18 n21 m4 n2F mE n24 m1 n43 m17 n3 m1 n8 m4 n2B m3 n32 m1 n1",
    "m3 n2 m2 n5 m2 n1 m1 n29 m5 n5 mC nE2 m8 n1 m4 n4F2E m94 n26E m25 n3B8 m83 n60 m1 n95 mA",
    "n681 mF n28 m8 nA5 m6 n239 mC n17B m2 n99 mB nAF m3 n35 mF n38 m4 n2D mB n45 m3 n24 mF nF",
    "m2 n2C m1 nC m3 n30 mE n8 m4 n1 m2 n5C mC n6 m1 nA0 m11 n10 m5 n36 m2 n1 m12 n7 m6 n5 m9E",
    "n35 m12 n17 m1 n51 m14 nEB m12 n1B m24 n30 m11 n6A mD n65 m13 nFC mF nF5 mF n1 m1 n1 m2 n8D",
    "m10 n3 m1C n1 mA n28 m7 n1 m4 n8 m9 n1 mB n2E m10 n195 m11 n52 m6E n31 m15 n1 m9 n3A mE",
    "n15B m4 n4BF9 m5 n3B m7 n418 m1 n1 m42 n51 m1C n4C9D m2 n14C6 m5 n3 m16 n2 m7 n1E m4 n94 m3",
    "n7BB m37 n4 m32 n8 m1 nE m1 n16 m465 n100 m8F nA1 m7 n1B5 m4 n5E0 m52 n22 m7 nF16B5"]

def markRuns : Runs Bool :=
  (words markLines).filterMap fun word =>
    match word with
    | ⟨letter, [n]⟩ => some (n, letter == 'm')
    | _ => none

/-- A mark that is too new for the table counts as a letter. -/
def isMark (c : Char) : Bool := markRuns.valueAt false c

/-- From left to right is forward. Numbers run forward also among letters that do not. What has no
direction of its own takes that of its surroundings, and a mark that of the character before it.
Blanks, and characters too new for the table, have none at all. -/
inductive Direction where
  | forward
  | backward
  | arabicNumber
  | europeanNumber
  | neutral
  | mark
  | none
  deriving DecidableEq, Repr

namespace Direction

/-- So many characters in a row that run forward after `L` and backward after `R`, numbers after `A`
and `E`, what has no direction of its own after `N` and `M`, and what has none after `O`. -/
def lines : List String :=
  ["N9 O5 NE O5 NF EA N27 L1A N64 L18 N1 L1C1 N2 L7 NE L2 N1C L1 N11 M71 L4 N2 L7F N2 L8B M8",
    "LFF N7 M2D R1 M1 R1 M2 R1 M2 R1 M9 R36 N2 R1 N2 R1 N1 R1 N2 MB R2 O1 R2D M15 AA N1 A2 R3 M1",
    "R65 M8 N1 M6 R2 M2 N1 M4 R2 EA R17 M1 R1E M1D R59 MB R3A M9 R2 N4 R3 M1 R18 M4 R1 M9 R1 M3",
    "R1 M7 R29 M5 R12 O30 R15 O1 R12 OB M30 L37 M1 L1 M1 L4 M8 L4 M1 L3 MF L2 M2 L1D M1 L3A M1",
    "L4 M6 L6 M1 L14 M4 LC N2 L7 N1 L2 M5 L39 M2 L3 M1B L14 M2 L3 M1 LB M2 L39 M1 L4 M8 L4 M3",
    "L12 M4 LB N8 L1 M8 L3A M1 L2 M1 L1 M6 L6 MA LB M4 L1C M1 L3D M1 LC M3 L23 ND M1 L3 M1 L37",
    "O1 L1 M3 L5 M12 L5 O3 L2 M4 L12 N7 L2 M1 L3A M1 LF M9 L8 O1 L4 M4 LD OD M2 L39 M2 L4 M5 L7",
    "M1 L14 M4 L1B M1 L48 M5 L3 M6 L59 M1 L2 MB N1 L7 M8 L62 M1 L2 M9 LB M6 O2 L48 M2 L1B M1 L1",
    "M1 L1 M1 N4 L33 ME L1 M5 L1 M2 L5 M31 L8 M1 L66 M4 L1 M6 L1 M2 L2 M2 L19 M2 L4 M3 L10 M4 LD",
    "M1 L2 M2 L6 M1 LF M1 L2BF M3 L30 N10 L60 N1 L29A N5 L6D O1 L4 M3 OB L12 M3 L1D ME L12 ME",
    "L37 M7 L8 M1 L2 MB L7 N1 L1 M3 L10 N20 L75 M2 L22 M1 L76 M3 L4 M2 L9 M1 L6 M7 N6 L98 N22",
    "L17 M2 L2 M3 L38 M1 L1 M9 L1 M1 L2 M8 L6 MD L30 M11 O3F M4 L30 M1 L1 M5 L1 M1 L5 M1 L9 O4",
    "L1B M9 L9 O3 M2 L20 M4 L2 M2 L1 M3 L38 M1 L1 M2 L3 M1 L1 M3 L3A M8 L2 M5 L95 M3 L1 MD L1 M7",
    "L4 M1 L6 M1 L3 M2 LC6 M3A O1 M6 L20B NB4 O10 M34 N4A L3C N1AC L45 N1A L1 N316 L1 N153 L100",
    "N330 L2F O2 L84 N7 L3 M4 L6 N7 L7F M1 L60 M20 N53 O2D N185 L3 N19 L9 M4 L2 N1 L6 N4 L2 N4",
    "L58 M4 L3 N1 L5A N1 LC4 N30 L1BD0 N40 L51FD O3 L490 N40 L13D N3 L5F M4 N1 MA N3 L1D M2 L50",
    "M2 LE N23 L65 N1 L38 O2 LE O25 LC M1 L3 M1 L4 M1 L19 M2 L1 N4 M4 L8 N8 L34 NC L44 MA L12",
    "M12 LD M1 L26 M8 L19 MB L2E M3 L30 M1 L2 M4 L2 M2 L27 M1 L43 M6 L2 M2 L2 MB L3 M1 L8 M1 L2F",
    "M1 L33 M1 L1 M3 L2 M2 L5 M2 L1 M1 L2A M2 L8 MB L69 N56 L25 M1 L2 M1 L4 M3 L4F2E M94 R10",
    "O17C N2 OBD N1 O22 M25 N2E R18D L101 N1 L3E N4D L3 N40 L2D M83 L60 M1 E1F L76 MA L217 O69",
    "L180 O80 R11F N1 RE1 MF R28 M8 RA5 M6 R4E N7 R1E4 MC A150 R2B M2 R50 O3 R46 MB R1F O40 R50",
    "L1 M1 L36 MF LB N14 LA OF M3 L31 M4 L2 M2 L7 OE L30 M3 L24 M5 L1 M9 L3D M1 LC M2 L34 M9 LA",
    "M4 L2 M1 L5F M3 L2 M1 L1 M2 L6 M1 O41 L5F M1 L3 MD L10 M2 L39 M2 L3 M1 L25 M9A L38 M8 L2 M3",
    "L1 M1 L17 M1 L54 M6 L1 M1 L4 M2 L1 M2 LEE M6 L4 M2 L1 M2 L1B M24 L33 M8 L2 M1 L1 M2 L1F N20",
    "L2B M1 L1 M1 L2 M6 L1 M1 L1 O7 L5D M3 L2 M4 L1 M9 L10 OC0 L2F M9 L1 M2 L100 M2 L1 M1 L4 M1",
    "L90 M8 L4 M1 L20 M6 L2 M2 L28 M6 L2 M4 L8 M9 L1 M6 L2 M3 L2E MD L1 M2 L16 O10 L40 O100 L30",
    "ME L54 M17 L1 M7 L1 M2 L1 M4B L31 M15 L1 M9 L40 M3 L2 M1 L1 M1 L15B M2 LB OB0 L25 N2A LF91",
    "O70 L42F OFD1 L2670 O60 L20 M5 L3B M7 L418 M1 L3F M4 L4F N1 L1 MC L4000 O10 L11F O31 L5 OF",
    "LB39 M2 L1261 O100 L167 M3 L11 M8 L2 M7 L1E M4 L3B O17 N42 M3 N7B O20 L20 N60 L6A0 M37 L4",
    "M32 L8 M1 LE M1 L16 M465 O100 M8F O71 L30 M7 L159 O30 L2C M4 LF N1D1 O330 RD0 M52 R22 M7",
    "R5A5 N260 L1D N3 L3D N39 L7A N47C O4 N94 OC N59 O7 N10 O10 N179 O1 N52 O1 NA8 O3 N3 O5 N7",
    "O9 N19 O7 N7 O9 N3 OD N7 O29 N500 LA6DE O22 L1035 OB L5C10 ODECB0"]

def ofLetter? : Char → Option Direction
  | 'L' => some .forward
  | 'R' => some .backward
  | 'A' => some .arabicNumber
  | 'E' => some .europeanNumber
  | 'N' => some .neutral
  | 'M' => some .mark
  | 'O' => some .none
  | _ => Option.none

def runs : Runs Direction :=
  (words lines).filterMap fun word =>
    match ofLetter? word.letter, word.numbers with
    | some direction, [n] => some (n, direction)
    | _, _ => Option.none

def ofChar (c : Char) : Direction := runs.valueAt .forward c

end Direction

/-- The sides on which a letter can be joined to its neighbours. -/
inductive Joining where
  | none
  | left
  | right
  | both
  deriving DecidableEq, Repr

namespace Joining

/-- So many letters that are joined on the left after `L`, on the right after `R`, on both sides
after `D`, and all others after `U`. -/
def lines : List String :=
  ["U620 D1 U1 R4 D1 R1 D1 R1 D5 R4 DD U1 D7 R1 D2 U23 D2 U1 R3 U5 DF R12 D26 R1 D2 R9 D1 R1 D1",
    "R1 D2 R2 U1 R1 U18 R2 UA D3 U2 D1 U10 R1 U1 D3 R5 D4 R1 D9 R1 D1 R1 D1 R1 D2 R1 U1D R1 DB",
    "R3 DB UE9 D4 R1 D1 U4A D1 U1 D8 R3 UF5A D1 U18 D58 UF D22 U1 D6 U8F90 D32 L1 U10578D"]

def ofLetter? : Char → Option Joining
  | 'U' => some .none
  | 'L' => some .left
  | 'R' => some .right
  | 'D' => some .both
  | _ => Option.none

def runs : Runs Joining :=
  (words lines).filterMap fun word =>
    match ofLetter? word.letter, word.numbers with
    | some joining, [n] => some (n, joining)
    | _, _ => Option.none

/-- The letters of scripts that are too new for the table are not joined. -/
def ofChar (c : Char) : Joining := runs.valueAt .none c

def isLeft (j : Joining) : Bool := j = .left || j = .both

def isRight (j : Joining) : Bool := j = .right || j = .both

end Joining

/-- Signs that take the vowel from a consonant and so bind it to the next. -/
def viramaLines : List String :=
  ["v94D v9CD vA4D vACD vB4D vBCD vC4D vCCD vD3B vD3C vD4D vDCA vE3A vEBA vF84 v1039 v103A",
    "v1714 v1734 v17D2 v1A60 v1B44 v1BAA v1BAB v1BF2 v1BF3 v2D7F vA806 vA8C4 vA953 vA9C0 vAAF6",
    "vABED v10A3F v11046 v1107F v110B9 v11133 v11134 v111C0 v11235 v112EA v1134D v11442 v114C2",
    "v115BF v1163F v116B6 v1172B v11839 v119E0 v11A34 v11A47 v11A99 v11C3F v11D44 v11D45 v11D97"]

def viramas : List Char := (words viramaLines).flatMap fun word => word.numbers.map Char.ofNat

def isVirama (c : Char) : Bool := viramas.contains c

namespace Punycode

def base : Nat := 36

def digitValue? (c : Char) : Option Nat :=
  if c.isLower then some (c.toNat - 'a'.toNat)
  else if c.isDigit then some (c.toNat - '0'.toNat + 26)
  else none

/-- A digit below the threshold of its position ends a number. -/
def threshold (bias position : Nat) : Nat :=
  if position ≤ bias then 1 else if position - bias < 26 then position - bias else 26

def scaleDown (delta : Nat) : Nat :=
  if delta ≤ 455 then base * delta / (delta + 38) else base + scaleDown (delta / 35)
termination_by delta
decreasing_by exact Nat.div_lt_self (by omega) (by decide)

/-- The bias adapts to the size of the last number. -/
def adapt (delta count : Nat) (first : Bool) : Nat :=
  let delta := if first then delta / 700 else delta / 2
  scaleDown (delta + delta / count)

/-- No number, and no weight of a digit, is above this. -/
def limit : Nat := 0x7FFFFFFF

/-- The characters found so far, and how far the current number has been read. -/
structure Reader where
  chars : List Char
  point : Nat := 0x80
  start : Nat := 0
  index : Nat := 0
  weight : Nat := 1
  position : Nat := base
  bias : Nat := 72

namespace Reader

/-- A whole number has been read: its character goes to its place. -/
def insert? (r : Reader) : Option Reader :=
  let count := r.chars.length + 1
  let point := r.point + r.index / count
  let place := r.index % count
  if Nat.isValidChar point then
    some {
      chars := r.chars.take place ++ Char.ofNat point :: r.chars.drop place
      point
      start := place + 1
      index := place + 1
      bias := adapt (r.index - r.start) count (r.start == 0) }
  else none

def read? (r : Reader) (c : Char) : Option Reader :=
  match digitValue? c with
  | none => none
  | some d =>
    let t := threshold r.bias r.position
    let index := r.index + d * r.weight
    let weight := r.weight * (base - t)
    if limit < index then none
    else if d < t then { r with index }.insert?
    else if limit < weight then none
    else some { r with index, weight, position := r.position + base }

def readAll? (r : Reader) : List Char → Option Reader
  | [] => if r.position = base then some r else none
  | c :: s =>
    match r.read? c with
    | none => none
    | some r => r.readAll? s

end Reader

/-- What stands before and after the last hyphen. -/
def cutAtHyphen (s : List Char) : List Char × List Char :=
  match s.reverse.dropWhile (· ≠ '-') with
  | [] => ([], s)
  | _ :: plain => (plain.reverse, (s.reverse.takeWhile (· ≠ '-')).reverse)

/-- The characters of a label. -/
def decode? (s : List Char) : Option (List Char) :=
  let (plain, numbers) := cutAtHyphen s
  (Reader.readAll? { chars := plain } numbers).map Reader.chars

end Punycode

def nonJoiner : Char := '\u200C'

def joiner : Char := '\u200D'

def followsVirama (before : List Char) : Bool := (before.head?.map isVirama).getD false

/-- Whether the first joiner or non-joiner of a label is in its place, if there is one: after a
virama, or, to keep letters apart, somewhere between two that would join. The characters before
are given with the last one first. -/
def joinerInPlace? (before : List Char) : List Char → Option Bool
  | [] => none
  | c :: s =>
    if c = nonJoiner then
      some (followsVirama before || (before.any (fun c => (Joining.ofChar c).isLeft) &&
        s.any fun c => (Joining.ofChar c).isRight))
    else if c = joiner then some (followsVirama before)
    else joinerInPlace? (c :: before) s

namespace Direction

/-- Directions that ask for a label to be checked. -/
def turnsBack (d : Direction) : Bool := d = .backward || d = .arabicNumber

def isInForward (d : Direction) : Bool :=
  d = .forward || d = .europeanNumber || d = .neutral || d = .mark

def endsBackward (d : Direction) : Bool := d.turnsBack || d = .europeanNumber

def isInBackward (d : Direction) : Bool := d.endsBackward || d = .neutral || d = .mark

end Direction

/-- A label that begins forward may still end in another direction. One that does not must
end in a letter or a number, and its numbers must be of one kind. Marks at the end do not count, but
there must be something else. -/
def directionsAgree (directions : List Direction) : Bool :=
  match directions.reverse.dropWhile (· = .mark) with
  | [] => false
  | last :: before =>
    if !directions.any Direction.turnsBack then true
    else if directions.head? = some .forward then before.all Direction.isInForward
    else
      last.endsBackward && before.all Direction.isInBackward &&
        !(directions.contains .arabicNumber && directions.contains .europeanNumber)

/-- The rules for a label with characters beyond ASCII. A joiner in its place settles the rest. -/
def isInternational (label : List Char) : Bool :=
  !(label.head?.map isMark).getD true &&
    (joinerInPlace? [] label).getD (directionsAgree (label.map Direction.ofChar))

def isAscii (c : Char) : Bool := c.toNat < 0x80

/-- What stands behind the mark of a label written in ASCII must be the spelling of a label. -/
def isEncodedLabel (s : List Char) : Bool :=
  match Punycode.decode? s with
  | none => false
  | some label => label.all isKept && normalized label = label && isInternational label

def isLabel (label : List Char) : Bool :=
  match after? "xn--".toList label with
  | some s => s.all isAscii && isEncodedLabel s
  | none => label.all isAscii || isInternational label

end GuidAudit
