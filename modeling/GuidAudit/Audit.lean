import GuidAudit.Console
import GuidAudit.Disk.FileSystem
import GuidAudit.Disk.Path
import GuidAudit.Text.Utf8
import GuidAudit.Verdict

namespace GuidAudit

variable {σ : Type} [FileSystem σ]

/-- The paths of headers below a root, in the order of their units. The text of the root begins
them, even if it is a URL. -/
def headerList (root : String) (relative : List String) : List String :=
  sortByUnits (relative.map (joinedPath root))

def headers (w : σ) (root : String) (recursive : Bool) : Except SearchProblem (List String) :=
  (FileSystem.search w root recursive).map (headerList root)

inductive HeaderProblem where
  | unreadable (error : DiskError)
  | notUtf8
  deriving DecidableEq, Repr

def HeaderProblem.message : HeaderProblem → String
  | .unreadable error => error.message
  | .notUtf8 => "The encoded data was not valid for encoding utf-8"

def HeaderProblem.fault (problem : HeaderProblem) (path : String) : Fault :=
  .access problem.message path

def readHeader (w : σ) (path : String) : Except HeaderProblem String :=
  match FileSystem.read w path with
  | .error error => .error (.unreadable error)
  | .ok bytes =>
    match decodeStrict? bytes with
    | some text => .ok text
    | none => .error .notUtf8

/-- What came of one header. -/
structure Inspection where
  file : String
  result : Except HeaderProblem FileAudit

namespace Inspection

def audit? (i : Inspection) : Option FileAudit := i.result.toOption

def warning? (i : Inspection) : Option Message :=
  match i.result with
  | .ok _ => none
  | .error problem =>
    some (.warning ("Could not read file " ++ i.file ++ ": " ++ problem.message))

/-- The keys that suppressed something. -/
def matched (i : Inspection) : List UnitText :=
  match i.result with
  | .ok audit => audit.suppressed.map fun w => w.key
  | .error _ => []

end Inspection

def inspect (w : σ) (keys : KeySet) (file : String) : Inspection where
  file
  result :=
    match readHeader w file with
    | .ok content => .ok (auditContent file content keys)
    | .error problem => .error problem

structure AuditConfig where
  root : String
  recursive : Bool := true
  keys : KeySet := .empty

structure AuditStats where
  scanned : Nat := 0
  skipped : Nat := 0
  withProperties : Nat := 0
  deriving DecidableEq, Repr

/-- An auditor remembers what it has looked at and which keys it needed. -/
structure Auditor where
  config : AuditConfig
  matched : KeySet := .empty
  stats : AuditStats := {}

/-- What came of a whole directory: the headers that hold properties, and the warnings. -/
structure Survey where
  auditor : Auditor
  audits : Except SearchProblem (List FileAudit)
  warnings : List Message

namespace Auditor

/-- Counts an inspection and notes the keys that it needed. -/
def record (a : Auditor) (i : Inspection) : Auditor :=
  match i.result with
  | .error _ => { a with stats := { a.stats with skipped := a.stats.skipped + 1 } }
  | .ok _ =>
    { a with
      matched := a.matched.insertAll i.matched
      stats := { a.stats with scanned := a.stats.scanned + 1 } }

def headers (a : Auditor) (w : σ) : Except SearchProblem (List String) :=
  GuidAudit.headers w a.config.root a.config.recursive

def inspect (a : Auditor) (w : σ) (file : String) : Inspection :=
  GuidAudit.inspect w a.config.keys file

/-- Forgets what it has looked at. -/
def fresh (a : Auditor) : Auditor := { config := a.config }

def surveyFiles (a : Auditor) (w : σ) (files : List String) : Survey :=
  let inspections := files.map (a.inspect w)
  let audits := (inspections.filterMap Inspection.audit?).filter fun audit => !audit.found.isEmpty
  let counted := inspections.foldl record a.fresh
  { auditor := { counted with stats := { counted.stats with withProperties := audits.length } }
    audits := .ok audits
    warnings := inspections.filterMap Inspection.warning? }

/-- Starts afresh and inspects every header. -/
def survey (a : Auditor) (w : σ) : Survey :=
  match a.headers w with
  | .error problem => { auditor := a.fresh, audits := .error problem, warnings := [] }
  | .ok files => a.surveyFiles w files

def unused (a : Auditor) : List UnusedKey := a.config.keys.unused a.matched

end Auditor

end GuidAudit
