import GuidAudit.Text.Basic

namespace GuidAudit

def nul : Char := '\x00'

def holdsNull (text : String) : Bool := text.toList.contains nul

def isName (s : List Char) : Bool :=
  s ≠ [] && s ≠ ['.'] && s ≠ ['.', '.'] && !s.contains '/'

/-- What a path can call a file or a directory. -/
structure Name where
  text : String
  valid : isName text.toList = true
  deriving DecidableEq

/-- The longest name in bytes. -/
def nameLimit : Nat := 255

/-- What a file or a directory can be called on a disk. -/
def Name.isStorable (n : Name) : Bool := n.text.utf8ByteSize ≤ nameLimit && !holdsNull n.text

/-- A place in the tree of directories: the names on the way to it, the innermost first. -/
abbrev Location := List Name

def joinWith (separator : String) (names : Location) : String :=
  separator.intercalate (names.reverse.map Name.text)

def Location.text (l : Location) : String := "/" ++ joinWith "/" l

/-- One move along a path. -/
inductive PathStep where
  | current
  | parent
  | child (name : Name)
  deriving DecidableEq

def PathStep.isStorable : PathStep → Bool
  | .child n => n.isStorable
  | _ => true

def PathStep.ofPiece? (piece : List Char) : Option PathStep :=
  if h : isName piece = true then some (.child ⟨String.ofList piece, by simpa using h⟩)
  else if piece = ['.'] then some .current
  else if piece = ['.', '.'] then some .parent
  else none

structure Path where
  absolute : Bool
  steps : List PathStep
  trailingSlash : Bool

/-- Any text is a path; slashes in a row count once. -/
def Path.ofText (text : String) : Path where
  absolute := text.toList.head? == some '/'
  steps := (cutAt (· == '/') text.toList).filterMap PathStep.ofPiece?
  trailingSlash := text.toList.getLast? == some '/'

/-- The empty text leads nowhere. -/
def Path.isEmpty (p : Path) : Bool := !p.absolute && p.steps.isEmpty

/-- Takes a step by the names alone, whatever is on the disk. The root is its own parent. -/
def Location.step : Location → PathStep → Location
  | l, .current => l
  | l, .parent => l.tail
  | l, .child n => n :: l

/-- Takes one piece of a path to those before it, of which the innermost stands first. Only a
relative path can begin with steps up. -/
def resolvePiece (absolute : Bool) (stack : List (List Char)) (piece : List Char) :
    List (List Char) :=
  if piece = [] ∨ piece = ['.'] then stack
  else if piece = ['.', '.'] then
    match stack with
    | [] => if absolute then [] else [piece]
    | top :: below => if top = ['.', '.'] then piece :: top :: below else below
  else piece :: stack

/-- The pieces of a path in normal form, the innermost first. -/
def resolvedPieces (s : List Char) : List (List Char) :=
  (cutAt (· == '/') s).foldl (resolvePiece (s.head? == some '/')) []

/-- The normal form of a path: no dots but steps up at its beginning, no slashes in a row, and a dot
for a path without any piece. -/
def normalPath (s : List Char) : List Char :=
  let absolute := s.head? == some '/'
  let trailing := s.getLast? == some '/'
  match resolvedPieces s with
  | [] => if absolute then ['/'] else if trailing then ['.', '/'] else ['.']
  | pieces =>
    (if absolute then ['/'] else []) ++ ['/'].intercalate pieces.reverse ++
      if trailing then ['/'] else []

/-- Two texts with a slash between them, unless one is empty. -/
def slashed (s t : List Char) : List Char := ['/'].intercalate ([s, t].filter (· ≠ []))

/-- A path below another one, in normal form. -/
def joinedPath (root relative : String) : String :=
  String.ofList (normalPath (slashed root.toList relative.toList))

end GuidAudit
