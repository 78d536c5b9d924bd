import GuidAudit.Console
import GuidAudit.Disk.FileSystem
import GuidAudit.Json.Parser
import GuidAudit.Suppression.KeySet
import GuidAudit.Text.Utf8

namespace GuidAudit

namespace Suppressions

variable {σ : Type} [FileSystem σ]

inductive Problem where
  | unreadable (error : DiskError)
  | notJson
  | notObject
  | notArray
  | notString (index : Nat)
  deriving DecidableEq, Repr

def Problem.message : Problem → String
  | .unreadable error => error.message
  | .notJson => "Invalid JSON: the text is not a JSON value"
  | .notObject => "Suppression file must contain a JSON object"
  | .notArray => "\"suppressions\" must be an array"
  | .notString index => "suppressions[" ++ decimal index ++ "]: Entry must be a string"

def Problem.fault (problem : Problem) (path : String) : Fault := .config problem.message path

/-- The entries of a list of which the first has the given index. -/
def entriesFrom (index : Nat) : List Json.Value → Except Problem (List UnitText)
  | [] => .ok []
  | .string key :: items =>
    match entriesFrom (index + 1) items with
    | .ok keys => .ok (key :: keys)
    | .error problem => .error problem
  | _ :: _ => .error (.notString index)

def ofValue : Json.Value → Except Problem (List UnitText)
  | .object members =>
    match Json.member? "suppressions" members with
    | none => .ok []
    | some (.array items) => entriesFrom 0 items
    | some _ => .error .notArray
  | _ => .error .notObject

def ofText (text : String) : Except Problem (List UnitText) :=
  match Json.Value.ofText? text with
  | some value => ofValue value
  | none => .error .notJson

/-- All keys of a file, repeated ones included. -/
def read (w : σ) (path : String) : Except Problem (List UnitText) :=
  match FileSystem.read w path with
  | .ok bytes => ofText (decodeLenient bytes)
  | .error error => .error (.unreadable error)

/-- The keys of a file that may be missing or broken, which costs a warning and all of its keys. -/
def load (w : σ) : Option String → KeySet × List Message
  | none => (.empty, [])
  | some path =>
    if path.isEmpty then (.empty, [])
    else if (FileSystem.kindAt? w path).isNone then
      (.empty, [.warning ("Suppression file not found: " ++ path ++
        " (continuing without suppressions)")])
    else
      match read w path with
      | .ok keys => (.ofList keys, [])
      | .error problem =>
        (.empty, [.warning ("Could not load suppression file " ++ path ++ ": " ++
          problem.message)])

def toValue (keys : List UnitText) : Json.Value :=
  .object [("suppressions", .array (keys.map .string))]

def render (keys : List UnitText) : String := (toValue keys).render

/-- Examples to start from, all of them comments. -/
def template : List UnitText :=
  ["# Example suppressions:",
    "# \"Source/MyGame/Public/Data/LegacyStruct.h:FLegacyStruct::LegacyId\"",
    "# \"FTemporaryStruct::TempId\"",
    "# \"*::DebugId\"",
    "# \"Source/MyGame/Public/Data/ThirdPartyTypes.h\""]

def create (w : σ) (path : String) : σ × Except DiskError Unit :=
  FileSystem.writeText w .reached path (render template)

end Suppressions

end GuidAudit
