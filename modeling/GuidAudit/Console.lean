namespace GuidAudit

inductive Channel where
  | out
  | err
  deriving DecidableEq, Repr

inductive Tone where
  | red
  | yellow
  | green
  | gray
  deriving DecidableEq, Repr

namespace Tone

def escape (code : String) : List Char := '\x1b' :: '[' :: code.toList ++ ['m']

def opening : Tone → List Char
  | .red => escape "31"
  | .yellow => escape "33"
  | .green => escape "32"
  | .gray => escape "90"

def closing : List Char := escape "39"

/-- The tone is taken up again wherever the text closes one, and never runs across a line break. -/
def within (tone : Tone) : List Char → List Char
  | [] => []
  | '\x1b' :: '[' :: '3' :: '9' :: 'm' :: s => closing ++ tone.opening ++ within tone s
  | '\r' :: '\n' :: s => closing ++ '\r' :: '\n' :: tone.opening ++ within tone s
  | '\n' :: s => closing ++ '\n' :: tone.opening ++ within tone s
  | c :: s => c :: within tone s

def paint (tone : Tone) (text : String) : String :=
  String.ofList (tone.opening ++ within tone text.toList ++ closing)

end Tone

/-- A text that is written as a line of its own. -/
structure Message where
  channel : Channel
  tone : Option Tone
  text : String
  deriving DecidableEq, Repr

namespace Message

def plain (text : String) : Message := ⟨.out, none, text⟩

def success (text : String) : Message := ⟨.out, some .green, text⟩

def note (text : String) : Message := ⟨.out, some .gray, text⟩

def warning (text : String) : Message := ⟨.err, some .yellow, "Warning: " ++ text⟩

def error (text : String) : Message := ⟨.err, some .red, "Error: " ++ text⟩

/-- A complaint about the command line itself, which is never coloured. -/
def complaint (text : String) : Message := ⟨.err, none, "error: " ++ text⟩

def render (coloured : Bool) (m : Message) : String :=
  match m.tone with
  | some tone => (if coloured then tone.paint m.text else m.text) ++ "\n"
  | none => m.text ++ "\n"

end Message

inductive Fault where
  | config (message path : String)
  | access (message path : String)
  | usage (message : String)
  deriving DecidableEq, Repr

namespace Fault

def label : Fault → String
  | .config .. => "ConfigError"
  | .access .. => "FileAccessError"
  | .usage _ => "UsageError"

def message : Fault → String
  | .config message _ => message
  | .access message _ => message
  | .usage message => message

def path? : Fault → Option String
  | .config _ path => some path
  | .access _ path => some path
  | _ => none

/-- The label and the message, or the label alone where there is nothing to add. -/
def display (f : Fault) : String :=
  if f.message.isEmpty then f.label else f.label ++ ": " ++ f.message

end Fault

end GuidAudit
