import GuidAudit.Audit
import GuidAudit.CommandLine.Arguments
import GuidAudit.Suppression.File

namespace GuidAudit

variable {σ : Type} [FileSystem σ]

/-- Why a directory cannot be audited. -/
inductive RootProblem where
  | notGiven
  | notFound (path : String)
  | notDirectory (path : String)
  deriving DecidableEq, Repr

def RootProblem.message : RootProblem → String
  | .notGiven => "Missing required argument: directory"
  | .notFound path => "Directory '" ++ path ++ "' does not exist"
  | .notDirectory path => "'" ++ path ++ "' is not a directory"

def RootProblem.fault (problem : RootProblem) : Fault := .usage problem.message

/-- A value that is given and not empty. -/
def given? : Option String → Option String
  | none => none
  | some text => if text.isEmpty then none else some text

def scanRoot (w : σ) (directory : Option String) : Except RootProblem String :=
  match given? directory with
  | none => .error .notGiven
  | some path =>
    match FileSystem.kindAt? w path with
    | none => .error (.notFound path)
    | some .other => .error (.notDirectory path)
    | some .directory => .ok path

/-- How a run ends: its exit code, the files as it leaves them, and what it printed. -/
structure Completion (σ : Type) where
  exitCode : Nat
  workspace : σ
  messages : List Message

namespace Completion

def failure (w : σ) (message : String) : Completion σ := ⟨1, w, [.error message]⟩

/-- Puts messages before those of the run. -/
def after (earlier : List Message) (c : Completion σ) : Completion σ :=
  { c with messages := earlier ++ c.messages }

end Completion

def createTemplate (w : σ) (path : String) : Completion σ :=
  match Suppressions.create w path with
  | (w, .ok ()) => ⟨0, w, [.success ("Created default suppression file: " ++ path)]⟩
  | (w, .error error) => .failure w error.message

/-- Hands over the report, to a file or to standard output. -/
def deliver (w : σ) (report : Report) (options : Options) : Completion σ :=
  let exitCode := if options.failOnInvalid && !report.allValid then 1 else 0
  match given? options.output with
  | none => ⟨exitCode, w, [.plain report.text.shown]⟩
  | some path =>
    match FileSystem.writeText w .wanted path report.text with
    | (w, .ok ()) => ⟨exitCode, w, [.note ("Report written to: " ++ path)]⟩
    | (w, .error error) => .failure w error.message

def auditRoot (w : σ) (root : String) (options : Options) : Completion σ :=
  let (keys, warnings) := Suppressions.load w options.suppressionFile
  let auditor : Auditor := { config := { root, recursive := options.recursive, keys } }
  let survey := auditor.survey w
  let unused := if options.checkUnused then some survey.auditor.unused else none
  let completion : Completion σ :=
    match survey.audits with
    | .error problem => .failure w problem.message
    | .ok audits => deliver w (.build options.format audits unused) options
  completion.after (warnings ++ survey.warnings)

def execute (w : σ) (directory : Option String) (options : Options) : Completion σ :=
  match given? options.templateFile with
  | some path => createTemplate w path
  | none =>
    match scanRoot w directory with
    | .error problem => .failure w problem.message
    | .ok root => auditRoot w root options

/-- Runs the program on its arguments. -/
def executeArguments (w : σ) (args : List String) : Completion σ :=
  match Request.ofArguments args with
  | .error refusal => ⟨1, w, [.complaint refusal.message]⟩
  | .ok .version => ⟨0, w, [.plain programVersion]⟩
  | .ok .help => ⟨0, w, [.plain helpText]⟩
  | .ok (.audit directory options) => execute w directory options

end GuidAudit
