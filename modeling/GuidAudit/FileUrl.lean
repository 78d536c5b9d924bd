import GuidAudit.Host.Address

namespace GuidAudit

namespace FileUrl

inductive Problem where
  | malformed
  | foreignHost
  | encodedSlash
  | badEscape
  deriving DecidableEq, Repr

def Problem.message : Problem → String
  | .malformed => "Invalid URL"
  | .foreignHost => "File URL host must be \"localhost\" or empty on linux"
  | .encodedSlash => "File URL path must not include encoded / characters"
  | .badEscape => "URI malformed"

def opening : String := "file://"

/-- What follows the opening of a file URL. Control characters and blanks at its end, and
tabulators and line breaks anywhere, do not count. -/
def body? (text : String) : Option (List Char) :=
  (after? opening.toList text.toList).map fun s =>
    (s.reverse.dropWhile (· ≤ ' ')).reverse.filter fun c => c ≠ '\t' && c ≠ '\n' && c ≠ '\r'

def isSeparator (c : Char) : Bool := c == '/' || c == '\\'

/-- A letter for a drive, which is never taken for a host. -/
def isDrive : List Char → Bool
  | [c, d] => c.isAlpha && (d == ':' || d == '|')
  | _ => false

/-- A dot can be written by its number. -/
def plainDots : List Char → List Char
  | '%' :: '2' :: c :: s => if c = 'e' ∨ c = 'E' then '.' :: plainDots s else '%' :: '2' :: c :: s
  | c :: s => c :: plainDots s
  | [] => []

/-- A segment that begins like a drive. -/
def beginsWithDrive : List Char → Bool
  | c :: ':' :: _ => c.isAlpha
  | _ => false

/-- One segment out, which never leaves a drive. -/
def shorten : List (List Char) → List (List Char)
  | [s] => if beginsWithDrive s then [s] else []
  | stack => stack.tail

def enter (stack : List (List Char)) (s : List Char) : List (List Char) :=
  if stack.isEmpty && isDrive s then [s.take 1 ++ [':']] else s :: stack

/-- Goes through the segments of a path, from those that are open, the innermost first. A path
that ends in dots ends in a slash. -/
def resolve : List (List Char) → List (List Char) → List (List Char)
  | stack, [] => stack
  | stack, s :: rest =>
    let ending := if rest.isEmpty then [[]] else []
    if plainDots s = ['.', '.'] then resolve (ending ++ shorten stack) rest
    else if plainDots s = ['.'] then resolve (ending ++ stack) rest
    else resolve (enter stack s) rest

/-- Characters that a path in a URL holds by their numbers only. -/
def isEscaped (c : Char) : Bool := c ≤ ' ' || '~' < c || "\"#<>?`\x7b\x7d".toList.contains c

/-- What follows the first slash with a dot behind it. -/
def afterSlashDot? : List Char → Option (List Char)
  | '/' :: '.' :: s => some s
  | _ :: s => afterSlashDot? s
  | [] => none

/-- Whether the first segment that begins with a dot goes on with another character, if there is
one and it is not the first of all. -/
def dotBeginsName (s : List Char) : Bool :=
  s.head? != some '.' &&
    match afterSlashDot? s with
    | none => true
    | some [] => false
    | some (c :: _) => c != '.' && c != '/'

/-- A path in plain characters, without a drive in front, whose first dot at the start of a segment
begins a name. All of its dots are taken for names then. -/
def isVerbatim (s : List Char) : Bool :=
  dotBeginsName s && !isDrive (s.takeWhile (!isSeparator ·)) &&
    s.all fun c => !isEscaped c && c != '%' && c != '\\'

/-- The text of a path, before its escapes are decoded. -/
def writtenPath (s : List Char) : List Char :=
  if isVerbatim s then '/' :: s
  else '/' :: ['/'].intercalate (resolve [] (cutAt isSeparator s)).reverse

def holdsEncodedSlash : List Char → Bool
  | '%' :: '2' :: c :: s => c == 'f' || c == 'F' || holdsEncodedSlash ('2' :: c :: s)
  | _ :: s => holdsEncodedSlash s
  | [] => false

def decodePath (path : List Char) : Except Problem String :=
  if holdsEncodedSlash path then .error .encodedSlash
  else
    match percentDecodeStrict? path with
    | some s => .ok (String.ofList s)
    | none => .error .badEscape

/-- The path that a file URL stands for. A question mark or a number sign ends it. -/
def path (body : List Char) : Except Problem String :=
  let s := body.takeWhile fun c => c ≠ '?' && c ≠ '#'
  let host := s.takeWhile (!isSeparator ·)
  if isDrive host then decodePath (writtenPath s)
  else
    match Host.ofText? host with
    | none => .error .malformed
    | some .elsewhere => .error .foreignHost
    | some .here => decodePath (writtenPath (s.dropWhile (!isSeparator ·)).tail)

end FileUrl

end GuidAudit
