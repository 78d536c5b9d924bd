import GuidAudit.FileUrl
import GuidAudit.Text.Units

namespace GuidAudit

def holdsPlaceholder : List Char → Bool
  | '$' :: '{' :: _ => true
  | _ :: s => holdsPlaceholder s
  | [] => false

/-- Single quotes enclose a text, unless it holds one and other quotes spare it an escape. -/
def quoteFor (s : List Char) : Char :=
  if !s.contains '\'' then '\''
  else if !s.contains '"' then '"'
  else if !s.contains '\x60' && !holdsPlaceholder s then '\x60'
  else '\''

/-- Backslashes, control characters and the enclosing quote are escaped. -/
def quotedChar (quote c : Char) : List Char :=
  let n := c.toNat
  let hex (d : Nat) : Char := (Nat.digitChar d).toUpper
  match c with
  | '\x08' => ['\\', 'b']
  | '\t' => ['\\', 't']
  | '\n' => ['\\', 'n']
  | '\x0c' => ['\\', 'f']
  | '\r' => ['\\', 'r']
  | '\\' => ['\\', '\\']
  | c =>
    if c = quote then ['\\', c]
    else if n < 0x20 || (0x7F ≤ n && n < 0xA0) then ['\\', 'x', hex (n / 16), hex (n % 16)]
    else [c]

def quoted (s : List Char) : List Char :=
  let quote := quoteFor s
  quote :: s.flatMap (quotedChar quote) ++ [quote]

/-- The length up to which a text is quoted as a whole. -/
def wholeLimit : Nat := 76

/-- The length at which the display of a text is cut. -/
def displayLimit : Nat := 128

/-- Of a longer text only the beginning is looked at. -/
def quoteLimit : Nat := 10000

/-- A long text is quoted line by line. -/
def quotedLines (s : List Char) : List Char :=
  if unitLength s ≤ wholeLimit then quoted s
  else " +\n  ".toList.intercalate ((endedLines s).map quoted)

/-- A text as it is shown in a message. -/
def displayed (text : String) : String :=
  let shown := quotedLines (takeUnits quoteLimit text.toList)
  String.ofList
    (if unitLength shown ≤ displayLimit then shown
    else takeUnits displayLimit shown ++ "...".toList)

inductive DiskCause where
  | noEntry
  | notDirectory
  | isDirectory
  | alreadyExists
  | nameTooLong
  | fileTooLarge
  deriving DecidableEq, Repr

def DiskCause.text : DiskCause → String
  | .noEntry => "ENOENT: no such file or directory"
  | .notDirectory => "ENOTDIR: not a directory"
  | .isDirectory => "EISDIR: illegal operation on a directory"
  | .alreadyExists => "EEXIST: file already exists"
  | .nameTooLong => "ENAMETOOLONG: name too long"
  | .fileTooLarge => "EFBIG: file too large"

/-- The operation that failed, with the path it was given. -/
inductive DiskCall where
  | openFile (path : String)
  | readBytes
  | writeBytes
  | makeDirectory (path : String)
  deriving DecidableEq, Repr

def DiskCall.text : DiskCall → String
  | .openFile path => "open '" ++ path ++ "'"
  | .readBytes => "read"
  | .writeBytes => "write"
  | .makeDirectory path => "mkdir '" ++ path ++ "'"

/-- There are more errors than those that are told apart here. -/
inductive DiskError where
  | failed (cause : DiskCause) (call : DiskCall)
  | nullInPath (path : String)
  | other (message : String)
  deriving DecidableEq, Repr

def DiskError.message : DiskError → String
  | .failed cause call => cause.text ++ ", " ++ call.text
  | .nullInPath path =>
    "The argument 'path' must be a string, Uint8Array, or URL without null bytes. Received " ++
      displayed path
  | .other message => message

/-- Why a directory cannot be searched. -/
inductive SearchProblem where
  | badUrl (problem : FileUrl.Problem)
  | badPath (error : DiskError)
  deriving DecidableEq, Repr

def SearchProblem.message : SearchProblem → String
  | .badUrl problem => problem.message
  | .badPath error => error.message

/-- Which directory an error names when a name on the way to it cannot be stored: the one that was
wanted, or the one that could not be made after others had been. -/
inductive Blame where
  | wanted
  | reached
  deriving DecidableEq, Repr

inductive EntryKind where
  | directory
  | other
  deriving DecidableEq, Repr

/-- What the program asks of the file system that it runs on. -/
class FileSystem (σ : Type) where
  /-- What a path leads to, if it leads anywhere. -/
  kindAt? : σ → String → Option EntryKind
  /-- All bytes that can be read at a path. -/
  read : σ → String → Except DiskError ByteArray
  /-- Makes the directory that a file is to lie in, as the names of its path tell, and all those on
  the way to it that are missing. -/
  makeParent : σ → Blame → String → σ × Except DiskError Unit
  /-- Opens a file for writing. If there is none, it is made, and else it is emptied. -/
  openNew : σ → String → σ × Except DiskError Unit
  /-- Writes bytes to the file that has been opened at a path. -/
  fill : σ → String → ByteArray → σ × Except DiskError Unit
  /-- The paths of the headers below a directory, or right in it, as seen from there. -/
  search : σ → String → Bool → Except SearchProblem (List String)

namespace FileSystem

variable {σ : Type} [FileSystem σ]

/-- Opens a file for writing in a directory that is made first, and stays even if the file cannot
be opened. -/
def openFile (w : σ) (blame : Blame) (path : String) : σ × Except DiskError Unit :=
  match makeParent w blame path with
  | (w, .error error) => (w, .error error)
  | (w, .ok ()) => openNew w path

/-- Writes a file. What it held before is lost as soon as it is open. -/
def write (w : σ) (blame : Blame) (path : String) (bytes : ByteArray) :
    σ × Except DiskError Unit :=
  match openFile w blame path with
  | (w, .error error) => (w, .error error)
  | (w, .ok ()) => fill w path bytes

def writeText (w : σ) (blame : Blame) (path : String) (text : UnitText) :
    σ × Except DiskError Unit :=
  write w blame path text.toUTF8

end FileSystem

end GuidAudit
