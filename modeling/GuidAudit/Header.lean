import GuidAudit.Text.Basic

namespace GuidAudit

def propertySpecifier : String := "UPROPERTY"

def guidType : String := "FGuid"

/-- The initializers a member may have, as written without blanks around them. -/
def acceptedInitializers : List String := ["FGuid()", "FGuid::NewGuid()"]

/-- How many lines below an annotation its member is looked for. -/
def lookahead : Nat := 4

def headerSuffix : String := ".h"

/-- The owner of a member with no struct header above it. -/
def unknownOwner : String := "UnknownStruct"

/-- What follows the argument list whose opening parenthesis has been read. One level of
parentheses may stand inside it, and `nested` tells whether one is open. -/
def afterArguments? : (nested : Bool) → List Char → Option (List Char)
  | _, [] => none
  | false, '(' :: s => afterArguments? true s
  | true, '(' :: _ => none
  | false, ')' :: s => some s
  | true, ')' :: s => afterArguments? false s
  | nested, _ :: s => afterArguments? nested s

/-- The annotation keyword, its argument list, and blanks anywhere around the two. -/
def isAnnotationLine (line : List Char) : Bool :=
  match after? propertySpecifier.toList (skipBlanks line) with
  | none => false
  | some s =>
    match skipBlanks s with
    | '(' :: s => (afterArguments? false s).any (·.all isBlank)
    | _ => false

/-- A declared member, with the text of its initializer if it has one. -/
structure Member where
  name : List Char
  initializer : Option (List Char)
  deriving DecidableEq, Repr

/-- The text after the equals sign without its leading blanks. It is never empty: blanks alone
are represented by the last of them. -/
def initializerText (body : List Char) : List Char :=
  match skipBlanks body with
  | [] => body.getLast?.toList
  | s => s

/-- After the semicolon only blanks and a line comment may follow. -/
def isTrailer (s : List Char) : Bool :=
  match skipBlanks s with
  | [] => true
  | '/' :: '/' :: s => s.all fun c => !isLineTerminator c
  | _ => false

/-- The initializer, which ends at the first semicolon, and what follows that. -/
def initializer? (s : List Char) : Option (List Char × List Char) :=
  match s.takeWhile (· ≠ ';'), s.dropWhile (· ≠ ';') with
  | [], _ => none
  | body, _ :: s => some (initializerText body, s)
  | _, [] => none

/-- The part of a declaration behind the name. -/
def closing? : List Char → Option (Option (List Char) × List Char)
  | ';' :: s => some (none, s)
  | '=' :: s => (initializer? s).map fun (text, s) => (some text, s)
  | _ => none

def Member.ofLine? (line : List Char) : Option Member := do
  let s ← after? guidType.toList (skipBlanks line)
  let s ← skipBlanks? s
  let (name, s) ← word? s
  let (initializer, s) ← closing? (skipBlanks s)
  if isTrailer s then some { name, initializer } else none

/-- A GUID member together with the annotation that it was found under. Lines
count from one, and both line texts and the initializer are trimmed. -/
structure Detection where
  line : Int
  name : String
  annotationText : String
  declarationText : String
  initializer : Option String
  deriving DecidableEq, Repr

def trimmed (s : List Char) : String := String.ofList (trim s)

/-- The first member declared in the given lines, of which the first has the given number. -/
def firstMember? (number : Nat) : List Line → Option (Nat × Line × Member)
  | [] => none
  | line :: rest =>
    match Member.ofLine? line with
    | some member => some (number, line, member)
    | none => firstMember? (number + 1) rest

/-- The member that an annotation stands for, found in the lines right below it. -/
def detect? (number : Nat) (marked : Line) (below : List Line) : Option Detection :=
  (firstMember? (number + 1) (below.take lookahead)).map fun (number, line, member) =>
    { line := number
      name := String.ofList member.name
      annotationText := trimmed marked
      declarationText := trimmed line
      initializer := member.initializer.map trimmed }

/-- Every annotation looks for its own member, so one member may be found more than once. -/
def detectionsFrom (number : Nat) : List Line → List Detection
  | [] => []
  | line :: rest =>
    if isAnnotationLine line then
      (detect? number line rest).toList ++ detectionsFrom (number + 1) rest
    else detectionsFrom (number + 1) rest

def detections (ls : List Line) : List Detection := detectionsFrom 1 ls

/-- Skips the struct specifier, its argument list up to the first closing parenthesis, and the
blanks behind it. -/
def skipStructSpecifier? (s : List Char) : Option (List Char) :=
  match after? "USTRUCT".toList s with
  | none => some s
  | some s =>
    match skipBlanks s with
    | '(' :: s =>
      match s.dropWhile (· ≠ ')') with
      | _ :: s => some (skipBlanks s)
      | [] => none
    | _ => none

/-- Capitals, digits and underscores, at least one of them, and then `_API`. -/
def isExportMacro (word : List Char) : Bool :=
  match before? "_API".toList word with
  | none | some [] => false
  | some stem => stem.all fun c => c.isUpper || c.isDigit || c == '_'

/-- The name behind `struct`: the first word, or the second where the first is an export macro. -/
def declaredName? (s : List Char) : Option (List Char) := do
  let (first, s) ← word? s
  if isExportMacro first then
    match (skipBlanks? s).bind word? with
    | some (second, _) => some second
    | none => some first
  else some first

/-- The name of the struct that a line begins to declare. -/
def structName? (line : List Char) : Option (List Char) := do
  let s ← skipStructSpecifier? (skipBlanks line)
  let s ← after? "struct".toList s
  let s ← skipBlanks? s
  declaredName? s

/-- The struct header nearest above the given line index gives the owner; braces do not count. -/
def ownerAt (ls : List Line) (index : Int) : String :=
  match (ls.take index.toNat).reverse.findSome? structName? with
  | some name => String.ofList name
  | none => unknownOwner

structure Property extends Detection where
  file : String
  owner : String
  deriving DecidableEq, Repr

def Property.scopedName (p : Property) : String := p.owner ++ "::" ++ p.name

def Property.position (p : Property) : String := p.file ++ ":" ++ decimal p.line

def Property.hasAcceptedInitializer (p : Property) : Bool :=
  p.initializer.any acceptedInitializers.contains

def properties (file : String) (ls : List Line) : List Property :=
  (detections ls).map fun d => { d with file, owner := ownerAt ls (d.line - 1) }

end GuidAudit
