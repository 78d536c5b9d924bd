import GuidAudit.Disk.Basic
import GuidAudit.Disk.FileSystem
import GuidAudit.Header

namespace GuidAudit

/-- A disk seen from a current directory. There may be a limit to the size of files. -/
structure Workspace where
  disk : Disk
  current : Location
  sizeLimit : Option Nat := none

def Entry.kind : Entry → EntryKind
  | .directory => .directory
  | .file _ => .other

namespace Workspace

/-- Where a path starts. -/
def start (w : Workspace) (p : Path) : Location := if p.absolute then [] else w.current

/-- The location a path names, whatever is on the disk. -/
def locate (w : Workspace) (p : Path) : Location := p.steps.foldl Location.step (w.start p)

/-- What a path leads to. A slash at its end asks for a directory. -/
def reach (w : Workspace) (p : Path) : Except Disk.Obstacle Entry :=
  if p.isEmpty then .error .missing
  else
    match w.disk.walk (w.start p) p.steps with
    | .error o => .error o
    | .ok l =>
      match w.disk.entryAt? l with
      | none => .error .missing
      | some .directory => .ok .directory
      | some (.file bytes) => if p.trailingSlash then .error .notDirectory else .ok (.file bytes)

/-- The longest path in bytes. -/
def pathLimit : Nat := 4095

/-- A path with a null character, or one that is too long, is refused before the disk is asked. -/
def checkedPath (path : String) (call : DiskCall) : Except DiskError Path :=
  if holdsNull path then .error (.nullInPath path)
  else if pathLimit < path.utf8ByteSize then .error (.failed .nameTooLong call)
  else .ok (.ofText path)

/-- What is at a path, if it leads anywhere. -/
def entryAt? (w : Workspace) (path : String) : Option Entry :=
  match checkedPath path (.openFile path) with
  | .error _ => none
  | .ok p => (w.reach p).toOption

/-- A name in a checked path can be stored unless it is too long. -/
def causeOf : Disk.Obstacle → DiskCause
  | .missing => .noEntry
  | .notDirectory => .notDirectory
  | .badName => .nameTooLong

def read (w : Workspace) (path : String) : Except DiskError ByteArray :=
  match checkedPath path (.openFile path) with
  | .error error => .error error
  | .ok p =>
    match w.reach p with
    | .error o => .error (.failed (causeOf o) (.openFile path))
    | .ok .directory => .error (.failed .isDirectory .readBytes)
    | .ok (.file bytes) => .ok bytes

/-- The directory and the name under which a path can be written. -/
def target (w : Workspace) (p : Path) : Except DiskCause (Name × Location) :=
  if p.isEmpty then .error .noEntry
  else
    match w.disk.walk (w.start p) p.steps.dropLast with
    | .error o => .error (causeOf o)
    | .ok l =>
      match w.disk.entryAt? l, p.steps.getLast? with
      | none, _ => .error .noEntry
      | some (.file _), _ => .error .notDirectory
      | some .directory, some (.child n) =>
        if p.trailingSlash || w.disk.entryAt? (n :: l) = some .directory then .error .isDirectory
        else if n.isStorable then .ok (n, l)
        else .error .nameTooLong
      | some .directory, _ => .error .isDirectory

def blamed (w : Workspace) (blame : Blame) (wanted reached : Location) : Location :=
  match blame with
  | .wanted => wanted
  | .reached => if w.disk.entryAt? reached.tail = some .directory then wanted else reached

/-- Makes a directory and all those on the way to it that are missing. -/
def makeDirectories (w : Workspace) (blame : Blame) (wanted : Location) :
    Workspace × Except DiskError Unit :=
  let call (l : Location) : DiskCall := .makeDirectory l.text
  match checkedPath wanted.text (call wanted) with
  | .error error => (w, .error error)
  | .ok _ =>
    match w.disk.makeDirectories wanted with
    | (disk, .ok ()) => ({ w with disk }, .ok ())
    | (disk, .error (.badNameAt l)) =>
      ({ w with disk }, .error (.failed .nameTooLong (call (w.blamed blame wanted l))))
    | (disk, .error (.fileAt l)) =>
      let cause := if l = wanted then DiskCause.alreadyExists else .notDirectory
      ({ w with disk }, .error (.failed cause (call wanted)))

def makeParent (w : Workspace) (blame : Blame) (path : String) :
    Workspace × Except DiskError Unit :=
  w.makeDirectories blame (w.locate (.ofText path)).tail

/-- Puts bytes into the file that a path leads to. -/
def put (w : Workspace) (path : String) (bytes : ByteArray) : Workspace × Except DiskError Unit :=
  match checkedPath path (.openFile path) with
  | .error error => (w, .error error)
  | .ok p =>
    match w.target p with
    | .error cause => (w, .error (.failed cause (.openFile path)))
    | .ok (n, l) => ({ w with disk := w.disk.putFile n l bytes }, .ok ())

def openNew (w : Workspace) (path : String) : Workspace × Except DiskError Unit :=
  w.put path .empty

/-- As many of the bytes as the limit allows. -/
def stored (w : Workspace) (bytes : ByteArray) : ByteArray :=
  match w.sizeLimit with
  | none => bytes
  | some limit => bytes.extract 0 limit

def fits (w : Workspace) (bytes : ByteArray) : Bool :=
  match w.sizeLimit with
  | none => true
  | some limit => bytes.size ≤ limit

def fill (w : Workspace) (path : String) (bytes : ByteArray) : Workspace × Except DiskError Unit :=
  match w.put path (w.stored bytes) with
  | (w', .error error) => (w', .error error)
  | (w', .ok ()) =>
    if w.fits bytes then (w', .ok ()) else (w', .error (.failed .fileTooLarge .writeBytes))

theorem stored_of_fits {w : Workspace} {bytes : ByteArray} (h : w.fits bytes = true) :
    w.stored bytes = bytes := by
  unfold fits at h
  unfold stored
  split at h
  · rfl
  · apply ByteArray.ext
    rw [ByteArray.data_extract]
    exact Array.extract_eq_self_of_le (of_decide_eq_true h)

end Workspace

def isHeaderName (n : Name) : Bool := headerSuffix.toList.isSuffixOf n.text.toList

/-- The names that lead from a directory to a location below it, the innermost first. -/
def Location.below? (root l : Location) : Option Location :=
  if root.isSuffixOf l then some (l.take (l.length - root.length)) else none

/-- A directory can be listed unless its path is too long. -/
def Location.isListed (l : Location) : Bool := l.text.utf8ByteSize ≤ Workspace.pathLimit

/-- The way from a root to a file, if it is a header that a search of the root finds. -/
def headerBelow? (root : Location) (recursive : Bool) : Location × Entry → Option Location
  | (_, .directory) => none
  | (l, .file _) =>
    match root.below? l with
    | some (n :: between) =>
      if isHeaderName n && (recursive || between.isEmpty) && Location.isListed l.tail then
        some (n :: between)
      else none
    | _ => none

/-- The path by which a root is found: what a file URL stands for, or else the text itself. -/
def searchPath (root : String) : Except FileUrl.Problem String :=
  match FileUrl.body? root with
  | some body => FileUrl.path body
  | none => .ok root

namespace Workspace

/-- Where a search for headers starts, whatever is on the disk. -/
def searchStart (w : Workspace) (root : String) : Except SearchProblem Location :=
  match searchPath root with
  | .error problem => .error (.badUrl problem)
  | .ok path =>
    let l := w.locate (.ofText path)
    if holdsNull (Location.text l) then .error (.badPath (.nullInPath (Location.text l))) else .ok l

def search (w : Workspace) (root : String) (recursive : Bool) :
    Except SearchProblem (List String) :=
  match w.searchStart root with
  | .error problem => .error problem
  | .ok start =>
    .ok ((w.disk.entries.filterMap (headerBelow? start recursive)).map (joinWith "/"))

instance : FileSystem Workspace where
  kindAt? w path := (w.entryAt? path).map Entry.kind
  read := read
  makeParent := makeParent
  openNew := openNew
  fill := fill
  search := search

section Interface

variable (w : Workspace) (path : String)

@[simp] theorem kindAt?_eq : FileSystem.kindAt? w path = (w.entryAt? path).map Entry.kind := rfl

@[simp] theorem read_eq : FileSystem.read w path = w.read path := rfl

@[simp] theorem makeParent_eq (blame : Blame) :
    FileSystem.makeParent w blame path = w.makeParent blame path := rfl

@[simp] theorem openNew_eq : FileSystem.openNew w path = w.openNew path := rfl

@[simp] theorem fill_eq (bytes : ByteArray) :
    FileSystem.fill w path bytes = w.fill path bytes := rfl

@[simp] theorem search_eq (recursive : Bool) :
    FileSystem.search w path recursive = w.search path recursive := rfl

end Interface

end Workspace

end GuidAudit
