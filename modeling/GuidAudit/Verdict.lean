import GuidAudit.Header
import GuidAudit.Suppression.KeySet

namespace GuidAudit

inductive Reason where
  | missingInitializer
  | invalidInitializer
  deriving DecidableEq, Repr

def Reason.label : Reason → String
  | .missingInitializer => "missing-initializer"
  | .invalidInitializer => "invalid-initializer"

inductive Verdict where
  | suppressed (key : String)
  | valid
  | invalid (reason : Reason)
  deriving DecidableEq, Repr

def Property.suppressingKey? (p : Property) (keys : KeySet) : Option String :=
  keys.find? p.file p.owner p.name

/-- A suppression outranks an accepted initializer. -/
def Property.verdict (p : Property) (keys : KeySet) : Verdict :=
  match p.suppressingKey? keys with
  | some key => .suppressed key
  | none =>
    if p.hasAcceptedInitializer then .valid
    else .invalid (if p.initializer.isSome then .invalidInitializer else .missingInitializer)

/-- A property that needs a fix. -/
structure Violation where
  property : Property
  reason : Reason
  deriving DecidableEq, Repr

/-- A property that a key suppresses. -/
structure Waiver where
  property : Property
  key : String
  deriving DecidableEq, Repr

/-- The properties of one file, sorted by verdict. -/
structure FileAudit where
  file : String
  found : List Property
  valid : List Property
  invalid : List Violation
  suppressed : List Waiver
  deriving DecidableEq, Repr

def Property.violation? (keys : KeySet) (p : Property) : Option Violation :=
  match p.verdict keys with
  | .invalid reason => some { property := p, reason }
  | _ => none

def Property.waiver? (keys : KeySet) (p : Property) : Option Waiver :=
  match p.verdict keys with
  | .suppressed key => some { property := p, key }
  | _ => none

/-- Each list keeps the order of the properties. -/
def auditProperties (file : String) (found : List Property) (keys : KeySet) : FileAudit where
  file
  found
  valid := found.filter fun p => p.verdict keys = .valid
  invalid := found.filterMap (Property.violation? keys)
  suppressed := found.filterMap (Property.waiver? keys)

def auditContent (file content : String) (keys : KeySet) : FileAudit :=
  auditProperties file (properties file (lines content.toList)) keys

structure Summary where
  files : Nat
  found : Nat
  valid : Nat
  invalid : Nat
  suppressed : Nat
  deriving DecidableEq, Repr

/-- Every total counts the entries of its own list. -/
def Summary.ofAudits (audits : List FileAudit) : Summary where
  files := audits.length
  found := (audits.flatMap (·.found)).length
  valid := (audits.flatMap (·.valid)).length
  invalid := (audits.flatMap (·.invalid)).length
  suppressed := (audits.flatMap (·.suppressed)).length

def Summary.passed (s : Summary) : Bool := s.invalid == 0

end GuidAudit
