import GuidAudit.Report

namespace GuidAudit

structure Options where
  recursive : Bool := true
  suppressionFile : Option String := none
  templateFile : Option String := none
  output : Option String := none
  failOnInvalid : Bool := false
  format : OutputFormat := .text
  checkUnused : Bool := false
  deriving DecidableEq, Repr

inductive Flag where
  | version
  | recursive
  | noRecursive
  | suppressionFile
  | templateFile
  | output
  | failOnInvalid
  | format
  | checkUnused
  deriving DecidableEq, Repr

namespace Flag

def all : List Flag :=
  [.version, .recursive, .noRecursive, .suppressionFile, .templateFile, .output, .failOnInvalid,
    .format, .checkUnused]

def name : Flag → String
  | .version => "version"
  | .recursive => "recursive"
  | .noRecursive => "no-recursive"
  | .suppressionFile => "suppression-file"
  | .templateFile => "create-suppression-file"
  | .output => "output"
  | .failOnInvalid => "fail-on-invalid"
  | .format => "format"
  | .checkUnused => "check-dead-suppressions"

def letter? : Flag → Option Char
  | .version => some 'V'
  | .recursive => some 'r'
  | .suppressionFile => some 's'
  | .output => some 'o'
  | _ => none

/-- What the value of a flag is called, if it takes one. -/
def value? : Flag → Option String
  | .suppressionFile | .templateFile | .output => some "path"
  | .format => some "format"
  | _ => none

def takesValue (f : Flag) : Bool := f.value?.isSome

def long (f : Flag) : String := "--" ++ f.name

/-- The flag in all its spellings, with its value. -/
def usage (f : Flag) : String :=
  (f.letter?.map fun c => String.ofList ['-', c, ',', ' ']).getD "" ++ f.long ++
    (f.value?.map fun value => " <" ++ value ++ ">").getD ""

/-- The flag that a text spells exactly. -/
def ofText? (text : List Char) : Option Flag :=
  all.find? fun f => text = f.long.toList || f.letter?.any fun c => text = ['-', c]

end Flag

/-- What is left of two sequences behind their common beginning. -/
def dropCommon : List UInt16 → List UInt16 → List UInt16 × List UInt16
  | x :: xs, y :: ys => if x = y then dropCommon xs ys else (x :: xs, y :: ys)
  | xs, ys => (xs, ys)

def least : List (Option Nat) → Option Nat
  | [] => none
  | none :: ns => least ns
  | some n :: ns =>
    match least ns with
    | some m => some (min n m)
    | none => some n

/-- What is left after two neighbours have been swapped. -/
def swapped? : List UInt16 → List UInt16 → Option (List UInt16 × List UInt16)
  | x :: x' :: xs, y :: y' :: ys => if x = y' ∧ x' = y then some (xs, ys) else none
  | _, _ => none

/-- The fewest insertions, deletions, substitutions and swaps of neighbours that make two
sequences equal, if a budget of them is enough. No place is edited twice. -/
def edits? : (budget : Nat) → List UInt16 → List UInt16 → Option Nat
  | 0, xs, ys => if xs = ys then some 0 else none
  | budget + 1, xs, ys =>
    match dropCommon xs ys with
    | ([], []) => some 0
    | (xs, ys) =>
      (least [
        edits? budget xs.tail ys,
        edits? budget xs ys.tail,
        edits? budget xs.tail ys.tail,
        (swapped? xs ys).bind fun (xs, ys) => edits? budget xs ys]).map (· + 1)

/-- The most edits that a suggestion may need. -/
def maxEdits : Nat := 3

/-- The edits between a text and a name, if more than two fifths of the longer of them remain. -/
def similarity? (text name : List UInt16) : Option Nat := do
  let n ← edits? maxEdits text name
  let longer := max text.length name.length
  if 2 * longer < 5 * (longer - n) then some n else none

def suggestibleNames : List String := Flag.all.map Flag.name ++ ["help"]

/-- The names that need the fewest edits, sorted. -/
def similarNames (text : List Char) : List String :=
  let scored := suggestibleNames.filterMap fun name =>
    (similarity? (units text) (units name.toList)).map fun n => (n, name)
  let best := least (scored.map fun (n, _) => some n)
  sortByUnits ((scored.filter fun (n, _) => some n = best).map (·.2))

/-- The line that follows the complaint about an unknown flag. -/
def suggestion (flag : List Char) : String :=
  match after? ['-', '-'] flag with
  | none => ""
  | some text =>
    match similarNames text with
    | [] => ""
    | [name] => "\n(Did you mean --" ++ name ++ "?)"
    | names => "\n(Did you mean one of " ++ ", ".intercalate (names.map ("--" ++ ·)) ++ "?)"

/-- Why arguments are refused. -/
inductive Refusal where
  | missingValue (flag : Flag)
  | unknownFormat (value : String)
  | unknownFlag (text : List Char)
  deriving DecidableEq, Repr

def Refusal.message : Refusal → String
  | .missingValue flag => "option '" ++ flag.usage ++ "' argument missing"
  | .unknownFormat value =>
    "option '" ++ Flag.format.usage ++ "' argument '" ++ value ++
      "' is invalid. Allowed choices are text, json."
  | .unknownFlag text => "unknown option '" ++ String.ofList text ++ "'" ++ suggestion text

/-- What the arguments ask for. -/
inductive Request where
  | version
  | help
  | audit (directory : Option String) (options : Options)
  deriving DecidableEq, Repr

/-- What ends the reading before the last argument. -/
inductive Halt where
  | version
  | refused (refusal : Refusal)
  deriving DecidableEq, Repr

def Options.set (o : Options) (value : String) : Flag → Except Halt Options
  | .version => .error .version
  | .recursive => .ok { o with recursive := true }
  | .noRecursive => .ok { o with recursive := false }
  | .suppressionFile => .ok { o with suppressionFile := some value }
  | .templateFile => .ok { o with templateFile := some value }
  | .output => .ok { o with output := some value }
  | .failOnInvalid => .ok { o with failOnInvalid := true }
  | .checkUnused => .ok { o with checkUnused := true }
  | .format =>
    if value = "text" then .ok { o with format := .text }
    else if value = "json" then .ok { o with format := .json }
    else .error (.refused (.unknownFormat value))

/-- The arguments read so far. Once a flag is unknown, everything that is not a flag counts as
unknown too. -/
structure Arguments where
  options : Options := {}
  operands : List (List Char) := []
  unknown : List (List Char) := []

namespace Arguments

def set (a : Arguments) (flag : Flag) (value : List Char) : Except Halt Arguments :=
  match a.options.set (String.ofList value) flag with
  | .ok options => .ok { a with options }
  | .error halt => .error halt

/-- Takes in an argument that is no known flag; a dash alone is not one either. -/
def add (a : Arguments) (arg : List Char) : Arguments :=
  if !a.unknown.isEmpty || (arg.head? = some '-' && 1 < arg.length) then
    { a with unknown := a.unknown ++ [arg] }
  else { a with operands := a.operands ++ [arg] }

/-- Takes in all that follows a double dash. -/
def addRest (a : Arguments) (rest : List (List Char)) : Arguments :=
  if a.unknown.isEmpty then { a with operands := a.operands ++ rest }
  else { a with unknown := a.unknown ++ ['-', '-'] :: rest }

/-- A letter flag with more text right behind it. -/
def cluster? : List Char → Option (Flag × List Char)
  | '-' :: c :: d :: s => if c = '-' then none else (Flag.ofText? ['-', c]).map (·, d :: s)
  | _ => none

/-- A long flag with its value behind an equals sign. -/
def assignment? (arg : List Char) : Option (Flag × List Char) :=
  match arg.dropWhile (· ≠ '=') with
  | [] => none
  | _ :: value =>
    match Flag.ofText? (arg.takeWhile (· ≠ '=')) with
    | some flag => if flag.takesValue then some (flag, value) else none
    | none => none

theorem cluster?_length {arg s : List Char} {flag : Flag} (h : cluster? arg = some (flag, s)) :
    s.length + 1 < arg.length := by
  unfold cluster? at h
  split at h
  · split at h
    · simp at h
    · obtain ⟨f, _, h⟩ := Option.map_eq_some_iff.1 h
      obtain ⟨_, rfl⟩ := Prod.mk.inj h
      simp
  · simp at h

/-- A measure of what is left to read. -/
def size : List (List Char) → Nat
  | [] => 0
  | arg :: rest => arg.length + 1 + size rest

/-- Reads from left to right. A letter flag that takes no value leaves the rest of its argument,
behind a dash, to be read again. -/
def read (a : Arguments) : List (List Char) → Except Halt Arguments
  | [] => .ok a
  | arg :: rest =>
    if arg = ['-', '-'] then .ok (a.addRest rest)
    else
      match Flag.ofText? arg with
      | some flag =>
        if flag.takesValue then
          match rest with
          | [] => .error (.refused (.missingValue flag))
          | value :: rest =>
            match a.set flag value with
            | .ok a => a.read rest
            | .error halt => .error halt
        else
          match a.set flag [] with
          | .ok a => a.read rest
          | .error halt => .error halt
      | none =>
        match h : cluster? arg with
        | some (flag, s) =>
          have := cluster?_length h
          match a.set flag s with
          | .ok a => if flag.takesValue then a.read rest else a.read (('-' :: s) :: rest)
          | .error halt => .error halt
        | none =>
          match assignment? arg with
          | some (flag, value) =>
            match a.set flag value with
            | .ok a => a.read rest
            | .error halt => .error halt
          | none => (a.add arg).read rest
termination_by args => size args
decreasing_by
  all_goals simp only [size, List.length_cons]
  all_goals omega

/-- Help is looked for among the unknown arguments, of which the first is otherwise refused. -/
def request (a : Arguments) : Except Refusal Request :=
  if a.unknown.any fun arg => arg = ['-', 'h'] || arg = "--help".toList then .ok .help
  else
    match a.unknown with
    | arg :: _ => .error (.unknownFlag arg)
    | [] => .ok (.audit (a.operands.head?.map String.ofList) a.options)

end Arguments

def Request.ofArguments (args : List String) : Except Refusal Request :=
  match ({} : Arguments).read (args.map String.toList) with
  | .ok a => a.request
  | .error .version => .ok .version
  | .error (.refused refusal) => .error refusal

def helpLines : List String :=
  ["Usage: " ++ programName ++ " [options] [directory]",
    "",
    "Validate UPROPERTY FGuid initialization patterns in C++ headers",
    "",
    "Arguments:",
    "  directory                         Directory to scan for header files",
    "",
    "Options:",
    "  -V, --version                     output the version number",
    "  -r, --recursive                   Scan directory recursively (default: true)",
    "                                    (default: true)",
    "  --no-recursive                    Only scan header files directly inside the",
    "                                    directory",
    "  -s, --suppression-file <path>     Path to suppression file (JSON format)",
    "  --create-suppression-file <path>  Create a default suppression file at the",
    "                                    specified path",
    "  -o, --output <path>               Output file for the report (default:",
    "                                    stdout)",
    "  --fail-on-invalid                 Exit with non-zero code if invalid",
    "                                    properties are found (default: false)",
    "  --format <format>                 Report format (choices: \"text\", \"json\",",
    "                                    default: \"text\")",
    "  --check-dead-suppressions         Report suppression keys that matched no",
    "                                    property (default: false)",
    "  -h, --help                        display help for command"]

def helpText : String := "\n".intercalate helpLines

end GuidAudit
