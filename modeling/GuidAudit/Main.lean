import GuidAudit.CommandLine.Execution
import GuidAudit.Disk.Workspace

namespace GuidAudit

/-- The paths that a request names. -/
def Request.paths : Request → List String
  | .audit directory options =>
    [directory, options.suppressionFile, options.templateFile, options.output].filterMap given?
  | _ => []

/-- Every location that a path passes through. -/
def Location.passed (l : Location) : List PathStep → List Location
  | [] => [l]
  | s :: steps => l :: (l.step s).passed steps

/-- Copies the file or directory at a location. -/
def copyEntry (d : Disk) (l : Location) : IO Disk := do
  if holdsNull l.text then return d
  let path := (← IO.currentDir) / l.text
  if ← path.isDir then return (d.makeDirectories l).1
  match l with
  | n :: p =>
    if ← path.pathExists then
      return (d.makeDirectories p).1.putFile n p (← IO.FS.readBinFile path)
    return d
  | [] => return d

/-- The ways down to the headers right in a directory, and for a deep search to those below it. A
link is listed like a file, but never entered by a deep search, even if it begins there. -/
partial def listHeaders (start way : Location) (recursive : Bool) : IO (List Location) := do
  let path := (← IO.currentDir) / Location.text (way ++ start)
  unless ← path.isDir do return []
  if recursive && (← path.symlinkMetadata).type == .symlink then return []
  let mut found := []
  for e in ← path.readDir do
    if h : isName e.fileName.toList = true then
      let n : Name := ⟨e.fileName, h⟩
      if (← e.path.symlinkMetadata).type == .dir then
        if recursive then found := (← listHeaders start (n :: way) true) ++ found
      else if isHeaderName n then found := (n :: way) :: found
  return found

def copyPath (w : Workspace) (text : String) : IO Workspace := do
  let p := Path.ofText text
  return { w with disk := ← ((w.start p).passed p.steps).foldlM copyEntry w.disk }

/-- A copy of a part of the disk, and what a search of the disk itself has found. -/
structure Snapshot where
  workspace : Workspace
  found : List String

def Snapshot.update (s : Snapshot) (result : Workspace × Except DiskError Unit) :
    Snapshot × Except DiskError Unit :=
  ({ s with workspace := result.1 }, result.2)

instance : FileSystem Snapshot where
  kindAt? s := FileSystem.kindAt? s.workspace
  read s := FileSystem.read s.workspace
  makeParent s blame path := s.update (FileSystem.makeParent s.workspace blame path)
  openNew s path := s.update (FileSystem.openNew s.workspace path)
  fill s path bytes := s.update (FileSystem.fill s.workspace path bytes)
  search s root _ := (s.workspace.searchStart root).map fun _ => s.found

/-- The disk as far as a request is concerned. -/
def copyRequest (request : Request) : IO Snapshot := do
  let bare : Workspace := { disk := .empty, current := [] }
  let current := bare.locate (.ofText (← IO.currentDir).toString)
  let w ← request.paths.foldlM copyPath { disk := ← copyEntry .empty current, current }
  let .audit directory options := request | return ⟨w, []⟩
  let .ok root := scanRoot w directory | return ⟨w, []⟩
  let .ok start := w.searchStart root | return ⟨w, []⟩
  let ways ← listHeaders start [] options.recursive
  let disk ← ways.foldlM (fun d way => copyEntry d (way ++ start)) w.disk
  let found := ways.map (joinWith "/")
  return ⟨← (headerList root found).foldlM copyPath { w with disk }, found⟩

/-- Writes back the directories and files that a run has made or changed. -/
def writeBack (before after : Disk) : IO Unit := do
  let home ← IO.currentDir
  for (l, e) in after.entries do
    if e = .directory && before.entryAt? l ≠ some .directory then
      IO.FS.createDirAll (home / l.text)
  for (l, bytes) in before.changes after do
    IO.FS.writeBinFile (home / l.text) bytes

/-- Runs the command line on a copy of the disk, writes back what has changed, and prints. -/
def executeOnDisk (args : List String) : IO UInt32 := do
  let s ← copyRequest ((Request.ofArguments args).toOption.getD .help)
  let c := executeArguments s args
  writeBack s.workspace.disk c.workspace.workspace.disk
  let stdout ← IO.getStdout
  let stderr ← IO.getStderr
  let coloured ← stdout.isTty
  for m in c.messages do
    match m.channel with
    | .out => stdout.putStr (m.render coloured)
    | .err => stderr.putStr (m.render coloured)
  return UInt32.ofNat c.exitCode

end GuidAudit

def main (args : List String) : IO UInt32 := GuidAudit.executeOnDisk args
