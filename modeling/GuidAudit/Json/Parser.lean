import GuidAudit.Json.Value

namespace GuidAudit.Json

inductive Token where
  | openArray
  | closeArray
  | openObject
  | closeObject
  | comma
  | colon
  | null
  | bool (b : Bool)
  | number (coefficient exponent : Int)
  | string (text : UnitText)
  deriving DecidableEq, Repr

def hexUnit? (a b c d : Char) : Option Nat := do
  let a ← hexValue? a
  let b ← hexValue? b
  let c ← hexValue? c
  let d ← hexValue? d
  some (((a * 16 + b) * 16 + c) * 16 + d)

/-- The character that a letter behind a backslash stands for. -/
def escaped? : Char → Option Char
  | '"' => some '"'
  | '\\' => some '\\'
  | '/' => some '/'
  | 'b' => some '\x08'
  | 't' => some '\t'
  | 'n' => some '\n'
  | 'f' => some '\x0c'
  | 'r' => some '\r'
  | _ => none

/-- The units of a string whose opening quote has been read, and what follows its closing quote. -/
def stringUnits? : List Char → Option (List UInt16 × List Char)
  | [] => none
  | '"' :: s => some ([], s)
  | '\\' :: 'u' :: a :: b :: c :: d :: s => do
    let unit ← hexUnit? a b c d
    let (rest, s) ← stringUnits? s
    some (.ofNat unit :: rest, s)
  | '\\' :: e :: s => do
    let c ← escaped? e
    let (rest, s) ← stringUnits? s
    some (charUnits c ++ rest, s)
  | c :: s =>
    if c < ' ' then none
    else do
      let (rest, s) ← stringUnits? s
      some (charUnits c ++ rest, s)

/-- A run of digits that must not be empty. -/
def digits? (s : List Char) : Option (List Char × List Char) :=
  match s.takeWhile Char.isDigit with
  | [] => none
  | ds => some (ds, s.dropWhile Char.isDigit)

/-- The digits before the point: a zero stands alone. -/
def wholeDigits? : List Char → Option (List Char × List Char)
  | '0' :: s => some (['0'], s)
  | s => digits? s

def fractionDigits? : List Char → Option (List Char × List Char)
  | '.' :: s => digits? s
  | s => some ([], s)

def signedDigits? : List Char → Option (Int × List Char)
  | '-' :: s => (digits? s).map fun (ds, s) => (-ofDigits ds, s)
  | '+' :: s => (digits? s).map fun (ds, s) => (ofDigits ds, s)
  | s => (digits? s).map fun (ds, s) => (ofDigits ds, s)

def exponent? : List Char → Option (Int × List Char)
  | 'e' :: s => signedDigits? s
  | 'E' :: s => signedDigits? s
  | s => some (0, s)

def unsignedNumber? (s : List Char) : Option (Int × Int × List Char) := do
  let (whole, s) ← wholeDigits? s
  let (fraction, s) ← fractionDigits? s
  let (e, s) ← exponent? s
  some (ofDigits (whole ++ fraction), e - fraction.length, s)

def number? : List Char → Option (Token × List Char)
  | '-' :: s => (unsignedNumber? s).map fun (c, e, s) => (.number (-c) e, s)
  | s => (unsignedNumber? s).map fun (c, e, s) => (.number c e, s)

/-- One token, from a text that does not begin with a blank. -/
def token? : List Char → Option (Token × List Char)
  | '[' :: s => some (.openArray, s)
  | ']' :: s => some (.closeArray, s)
  | '{' :: s => some (.openObject, s)
  | '}' :: s => some (.closeObject, s)
  | ',' :: s => some (.comma, s)
  | ':' :: s => some (.colon, s)
  | 'n' :: s => (after? "ull".toList s).map fun s => (.null, s)
  | 't' :: s => (after? "rue".toList s).map fun s => (.bool true, s)
  | 'f' :: s => (after? "alse".toList s).map fun s => (.bool false, s)
  | '"' :: s => (stringUnits? s).map fun (text, s) => (.string ⟨text⟩, s)
  | s => number? s

theorem after?_length {w s r : List Char} (h : after? w s = some r) : r.length ≤ s.length := by
  rw [after?_eq_some_iff.1 h]
  simp

theorem stringUnits?_length {s r : List Char} {u : List UInt16}
    (h : stringUnits? s = some (u, r)) : r.length < s.length := by
  fun_induction stringUnits? s generalizing u with
  | case1 => simp at h
  | case2 => simp_all
  | case3 a b c d s ih =>
    simp only [Option.bind_eq_bind, Option.bind_eq_some_iff] at h
    obtain ⟨_, _, ⟨v, t⟩, hv, h⟩ := h
    simp only [Option.some.injEq, Prod.mk.injEq] at h
    obtain ⟨_, rfl⟩ := h
    have := ih hv
    simp only [List.length_cons]
    omega
  | case4 e s _ ih =>
    simp only [Option.bind_eq_bind, Option.bind_eq_some_iff] at h
    obtain ⟨_, _, ⟨v, t⟩, hv, h⟩ := h
    simp only [Option.some.injEq, Prod.mk.injEq] at h
    obtain ⟨_, rfl⟩ := h
    have := ih hv
    simp only [List.length_cons]
    omega
  | case5 => simp at h
  | case6 c s _ _ _ _ ih =>
    simp only [Option.bind_eq_bind, Option.bind_eq_some_iff] at h
    obtain ⟨⟨v, t⟩, hv, h⟩ := h
    simp only [Option.some.injEq, Prod.mk.injEq] at h
    obtain ⟨_, rfl⟩ := h
    have := ih hv
    simp only [List.length_cons]
    omega

theorem digits?_length {s ds r : List Char} (h : digits? s = some (ds, r)) :
    r.length < s.length := by
  unfold digits? at h
  split at h
  · simp at h
  next hd =>
    simp only [Option.some.injEq, Prod.mk.injEq] at h
    obtain ⟨rfl, rfl⟩ := h
    have := congrArg List.length (List.takeWhile_append_dropWhile (p := Char.isDigit) (l := s))
    have := List.length_pos_iff.2 hd
    simp only [List.length_append] at *
    omega

theorem wholeDigits?_length {s ds r : List Char} (h : wholeDigits? s = some (ds, r)) :
    r.length < s.length := by
  unfold wholeDigits? at h
  split at h
  · simp_all
  · exact digits?_length h

theorem fractionDigits?_length {s ds r : List Char} (h : fractionDigits? s = some (ds, r)) :
    r.length ≤ s.length := by
  unfold fractionDigits? at h
  split at h
  · have := digits?_length h
    simp only [List.length_cons]
    omega
  · simp_all

theorem signedDigits?_length {s r : List Char} {e : Int} (h : signedDigits? s = some (e, r)) :
    r.length ≤ s.length := by
  unfold signedDigits? at h
  split at h <;>
  · obtain ⟨⟨ds, t⟩, hd, h⟩ := Option.map_eq_some_iff.1 h
    obtain ⟨_, rfl⟩ := Prod.mk.inj h
    grind [digits?_length hd]

theorem exponent?_length {s r : List Char} {e : Int} (h : exponent? s = some (e, r)) :
    r.length ≤ s.length := by
  unfold exponent? at h
  split at h
  · exact Nat.le_succ_of_le (signedDigits?_length h)
  · exact Nat.le_succ_of_le (signedDigits?_length h)
  · simp_all

theorem unsignedNumber?_length {s r : List Char} {c e : Int}
    (h : unsignedNumber? s = some (c, e, r)) : r.length < s.length := by
  simp only [unsignedNumber?, Option.bind_eq_bind, Option.bind_eq_some_iff] at h
  obtain ⟨⟨w, s₁⟩, hw, ⟨f, s₂⟩, hf, ⟨x, s₃⟩, hx, h⟩ := h
  simp only [Option.some.injEq, Prod.mk.injEq] at h
  obtain ⟨_, _, rfl⟩ := h
  exact Nat.lt_of_le_of_lt (exponent?_length hx)
    (Nat.lt_of_le_of_lt (fractionDigits?_length hf) (wholeDigits?_length hw))

theorem number?_length {s r : List Char} {t : Token} (h : number? s = some (t, r)) :
    r.length < s.length := by
  unfold number? at h
  split at h
  next s =>
    obtain ⟨⟨c, e, r⟩, hn, h⟩ := Option.map_eq_some_iff.1 h
    obtain ⟨_, rfl⟩ := Prod.mk.inj h
    exact Nat.lt_succ_of_lt (unsignedNumber?_length hn)
  next =>
    obtain ⟨⟨c, e, r⟩, hn, h⟩ := Option.map_eq_some_iff.1 h
    obtain ⟨_, rfl⟩ := Prod.mk.inj h
    exact unsignedNumber?_length hn

theorem token?_length {s r : List Char} {t : Token} (h : token? s = some (t, r)) :
    r.length < s.length := by
  unfold token? at h
  split at h
  case h_7 | h_8 | h_9 =>
    obtain ⟨r, hr, h⟩ := Option.map_eq_some_iff.1 h
    simp only [Prod.mk.injEq] at h
    obtain ⟨_, rfl⟩ := h
    exact Nat.lt_succ_of_le (after?_length hr)
  case h_10 =>
    obtain ⟨⟨u, r⟩, hr, h⟩ := Option.map_eq_some_iff.1 h
    simp only [Prod.mk.injEq] at h
    obtain ⟨_, rfl⟩ := h
    exact Nat.lt_succ_of_lt (stringUnits?_length hr)
  case h_11 => exact number?_length h
  all_goals simp_all

/-- The blanks that may stand between tokens. -/
def isGap (c : Char) : Bool := c == ' ' || c == '\t' || c == '\n' || c == '\r'

def tokens? : List Char → Option (List Token)
  | [] => some []
  | c :: s =>
    if isGap c then tokens? s
    else
      match h : token? (c :: s) with
      | none => none
      | some (t, r) =>
        have : r.length < (c :: s).length := token?_length h
        (tokens? r).map (t :: ·)
termination_by s => s.length
decreasing_by
  · exact Nat.lt_succ_self _
  · exact this

/-- A container that is still open, with what it holds so far, the last item first. An object has
read the name of the member that comes next. -/
inductive Frame where
  | array (items : List Value)
  | object (members : List (UnitText × Value)) (name : UnitText)

/-- What has been read and what must follow. -/
inductive Progress where
  | item (stack : List Frame)
  | firstItem (stack : List Frame)
  | firstName (stack : List Frame)
  | name (members : List (UnitText × Value)) (stack : List Frame)
  | colon (members : List (UnitText × Value)) (name : UnitText) (stack : List Frame)
  | complete (value : Value) (stack : List Frame)

namespace Progress

/-- The token that begins a value. -/
def begin? (stack : List Frame) : Token → Option Progress
  | .null => some (.complete .null stack)
  | .bool b => some (.complete (.bool b) stack)
  | .number c e => some (.complete (.number c e) stack)
  | .string text => some (.complete (.string text) stack)
  | .openArray => some (.firstItem stack)
  | .openObject => some (.firstName stack)
  | _ => none

def step? : Progress → Token → Option Progress
  | .item stack, t => begin? stack t
  | .firstItem stack, .closeArray => some (.complete (.array []) stack)
  | .firstItem stack, t => begin? (.array [] :: stack) t
  | .firstName stack, .closeObject => some (.complete (.object []) stack)
  | .firstName stack, .string n => some (.colon [] n stack)
  | .name members stack, .string n => some (.colon members n stack)
  | .colon members n stack, .colon => some (.item (.object members n :: stack))
  | .complete v (.array items :: stack), .comma => some (.item (.array (v :: items) :: stack))
  | .complete v (.array items :: stack), .closeArray =>
    some (.complete (.array (v :: items).reverse) stack)
  | .complete v (.object members n :: stack), .comma => some (.name ((n, v) :: members) stack)
  | .complete v (.object members n :: stack), .closeObject =>
    some (.complete (.object ((n, v) :: members).reverse) stack)
  | _, _ => none

def run? : Progress → List Token → Option Progress
  | p, [] => some p
  | p, t :: ts => (p.step? t).bind (run? · ts)

/-- The value, once nothing is left open. -/
def result? : Progress → Option Value
  | .complete v [] => some v
  | _ => none

end Progress

def Value.ofTokens? (ts : List Token) : Option Value :=
  (Progress.run? (.item []) ts).bind Progress.result?

def Value.ofText? (text : String) : Option Value := (tokens? text.toList).bind Value.ofTokens?

end GuidAudit.Json
