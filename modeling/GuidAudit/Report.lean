import GuidAudit.Json.Value
import GuidAudit.Verdict

namespace GuidAudit

def programName : String := "uproperty-guid-lint"

def programVersion : String := "0.1.0"

namespace Record

open Json

def optional : Option String → Value
  | some text => .string text
  | none => .null

def summary (s : Summary) : Value :=
  .object [
    ("files", .nat s.files),
    ("found", .nat s.found),
    ("valid", .nat s.valid),
    ("invalid", .nat s.invalid),
    ("suppressed", .nat s.suppressed),
    ("passed", .bool s.passed)]

/-- An entry says where its property stands, and then gives the details. -/
def entry (p : Property) (details : List (UnitText × Value)) : Value :=
  .object (("file", .string p.file) :: ("line", .int p.line) :: ("struct", .string p.owner) ::
    ("property", .string p.name) :: details)

def violation (v : Violation) : Value :=
  entry v.property [
    ("declaration", .string v.property.declarationText),
    ("initializer", optional v.property.initializer),
    ("reason", .string v.reason.label)]

def waiver (w : Waiver) : Value := entry w.property [("matched_key", .string w.key)]

def valid (p : Property) : Value := entry p [("initializer", .string (p.initializer.getD ""))]

def unusedKey (u : UnusedKey) : Value :=
  let key := (UnitText.ofString "key", Value.string u.key)
  let form := (UnitText.ofString "form", Value.string u.form.label)
  .object (if u.formFirst then [form, key] else [key, form])

/-- The unused keys are a last member where they are asked for, even if there are none. -/
def report (audits : List FileAudit) (unused : Option (List UnusedKey)) : Value :=
  let members : List (UnitText × Value) := [
    ("tool", .string programName),
    ("tool_version", .string programVersion),
    ("summary", summary (Summary.ofAudits audits)),
    ("invalid", .array ((audits.flatMap (·.invalid)).map violation)),
    ("suppressed", .array ((audits.flatMap (·.suppressed)).map waiver)),
    ("valid", .array ((audits.flatMap (·.valid)).map valid))]
  let last : Option (UnitText × Value) :=
    unused.map fun keys => ("unused_suppressions", .array (keys.map unusedKey))
  .object (members ++ last.toList)

end Record

namespace TextReport

def rule (c : Char) (width : Nat) : String := String.ofList (List.replicate width c)

def subject : String := propertySpecifier ++ " " ++ guidType

def count (label : String) (n : Nat) : String := label ++ ": " ++ decimal n

def header (s : Summary) : List String :=
  [rule '=' 80,
    subject ++ " Initialization Validation Report",
    rule '=' 80,
    "",
    count ("Files with " ++ subject ++ " properties") s.files,
    count ("Total " ++ subject ++ " properties found") s.found,
    count "Valid properties" s.valid,
    count "Invalid properties" s.invalid,
    count "Suppressed properties" s.suppressed,
    ""]

/-- The initializer as it stands, if any, and what is wrong with it. -/
def issue (p : Property) : List String :=
  match p.initializer with
  | some text => ["Current initializer: " ++ text, "Issue: Invalid initializer pattern"]
  | none => ["Issue: Missing in-class initializer"]

def violation (v : Violation) : List String :=
  ["File: " ++ v.property.position,
    "Struct: " ++ v.property.owner,
    "Property: " ++ v.property.name,
    "Declaration: " ++ v.property.declarationText] ++
  issue v.property ++
  ["Expected: " ++ " or ".intercalate acceptedInitializers, ""]

def waiver (w : Waiver) : String := w.property.position ++ " - " ++ w.property.scopedName

def valid (p : Property) : String :=
  "✅ " ++ p.position ++ " - " ++ p.scopedName ++ " = " ++ p.initializer.getD ""

def outcome (audits : List FileAudit) : List String :=
  if (Summary.ofAudits audits).passed then ["✅ VALIDATION PASSED", ""]
  else
    ["❌ VALIDATION FAILED", "", "Invalid Properties (require fixes):", rule '-' 40] ++
      (audits.flatMap (·.invalid)).flatMap violation

/-- A titled list, left out when it has no entries. -/
def listing (title : String) (width : Nat) (entries : List String) : List String :=
  if entries.isEmpty then [] else [title, rule '-' width] ++ entries ++ [""]

def unusedKeys (unused : List UnusedKey) : List UnitText :=
  let entries := if unused.isEmpty then [UnitText.ofString "(none)"] else unused.map (·.display)
  "Unused Suppressions:" :: rule '-' 20 :: entries.concat ""

/-- All lines but those on unused keys. -/
def findings (audits : List FileAudit) : List String :=
  header (Summary.ofAudits audits) ++
  outcome audits ++
  listing "Suppressed Properties:" 20 ((audits.flatMap (·.suppressed)).map waiver) ++
  listing "Valid Properties:" 15 ((audits.flatMap (·.valid)).map valid)

/-- The unused keys form a last section where they are asked for, even if there are none. -/
def report (audits : List FileAudit) (unused : Option (List UnusedKey)) : List UnitText :=
  (findings audits).map UnitText.ofString ++ (unused.map unusedKeys).getD []

end TextReport

inductive OutputFormat where
  | text
  | json
  deriving DecidableEq, Repr

structure Report where
  text : UnitText
  allValid : Bool
  deriving DecidableEq, Repr

def Report.build (format : OutputFormat) (audits : List FileAudit)
    (unused : Option (List UnusedKey)) : Report where
  text :=
    match format with
    | .text => .intercalate "\n" (TextReport.report audits unused)
    | .json => (Record.report audits unused).render
  allValid := (Summary.ofAudits audits).passed

end GuidAudit
