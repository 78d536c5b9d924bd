import GuidAudit.Json.Parser

namespace GuidAudit.Json

/-- Nothing but white space. -/
def Gap (s : List Char) : Prop := ∀ c ∈ s, c = ' ' ∨ c = '\t' ∨ c = '\n' ∨ c = '\r'

def IsDigits (s : List Char) : Prop := s ≠ [] ∧ ∀ c ∈ s, c.isDigit = true

/-- A number of more than one digit does not begin with a zero. -/
def IsWhole (s : List Char) : Prop := s = ['0'] ∨ IsDigits s ∧ s.head? ≠ some '0'

/-- A point and the digits behind it, or nothing at all. -/
def IsFraction (s digits : List Char) : Prop :=
  s = [] ∧ digits = [] ∨ s = '.' :: digits ∧ IsDigits digits

inductive IsExponent : List Char → Int → Prop
  | absent : IsExponent [] 0
  | unsigned {mark : Char} {ds : List Char} : mark = 'e' ∨ mark = 'E' → IsDigits ds →
      IsExponent (mark :: ds) (ofDigits ds)
  | plus {mark : Char} {ds : List Char} : mark = 'e' ∨ mark = 'E' → IsDigits ds →
      IsExponent (mark :: '+' :: ds) (ofDigits ds)
  | minus {mark : Char} {ds : List Char} : mark = 'e' ∨ mark = 'E' → IsDigits ds →
      IsExponent (mark :: '-' :: ds) (-ofDigits ds)

/-- The digits are taken without their point, which lowers the exponent. -/
inductive IsUnsigned : List Char → Int → Int → Prop
  | mk {whole fraction ds exponent : List Char} {e : Int} : IsWhole whole →
      IsFraction fraction ds → IsExponent exponent e →
      IsUnsigned (whole ++ (fraction ++ exponent)) (ofDigits (whole ++ ds)) (e - ds.length)

inductive IsNumber : List Char → Int → Int → Prop
  | positive {s : List Char} {c e : Int} : IsUnsigned s c e → IsNumber s c e
  | negative {s : List Char} {c e : Int} : IsUnsigned s c e → IsNumber ('-' :: s) (-c) e

/-- The letters that may follow a backslash, and the characters that they stand for. -/
def escapes : List (Char × Char) :=
  [('"', '"'), ('\\', '\\'), ('/', '/'), ('b', '\x08'), ('f', '\x0c'), ('n', '\n'), ('r', '\r'),
    ('t', '\t')]

/-- The inside of a string, and the 16-bit units that it stands for. -/
inductive IsBody : List Char → List UInt16 → Prop
  | nil : IsBody [] []
  | plain {c : Char} {s : List Char} {u : List UInt16} : c ≠ '"' → c ≠ '\\' → ' ' ≤ c →
      IsBody s u → IsBody (c :: s) (charUnits c ++ u)
  | escape {e c : Char} {s : List Char} {u : List UInt16} : (e, c) ∈ escapes →
      IsBody s u → IsBody ('\\' :: e :: s) (charUnits c ++ u)
  | unit {a b c d : Char} {n : Nat} {s : List Char} {u : List UInt16} : hexUnit? a b c d = some n →
      IsBody s u → IsBody ('\\' :: 'u' :: a :: b :: c :: d :: s) (.ofNat n :: u)

inductive IsString : List Char → UnitText → Prop
  | mk {body : List Char} {u : List UInt16} : IsBody body u →
      IsString ('"' :: (body ++ ['"'])) ⟨u⟩

/-- The parts of a text: a value, alone or with white space around it, a member of an object, and
what stands inside a container that is not empty. -/
inductive Phrase where
  | value (v : Value)
  | item (v : Value)
  | items (vs : List Value)
  | member (name : UnitText) (v : Value)
  | members (ms : List (UnitText × Value))

inductive Written : List Char → Phrase → Prop
  | null : Written "null".toList (.value .null)
  | boolTrue : Written "true".toList (.value (.bool true))
  | boolFalse : Written "false".toList (.value (.bool false))
  | number {s : List Char} {c e : Int} : IsNumber s c e → Written s (.value (.number c e))
  | string {s : List Char} {text : UnitText} : IsString s text → Written s (.value (.string text))
  | emptyArray {g : List Char} : Gap g → Written ('[' :: (g ++ [']'])) (.value (.array []))
  | array {s : List Char} {vs : List Value} : Written s (.items vs) →
      Written ('[' :: (s ++ [']'])) (.value (.array vs))
  | emptyObject {g : List Char} : Gap g → Written ('{' :: (g ++ ['}'])) (.value (.object []))
  | object {s : List Char} {ms : List (UnitText × Value)} : Written s (.members ms) →
      Written ('{' :: (s ++ ['}'])) (.value (.object ms))
  | item {g g' s : List Char} {v : Value} : Gap g → Written s (.value v) → Gap g' →
      Written (g ++ (s ++ g')) (.item v)
  | oneItem {s : List Char} {v : Value} : Written s (.item v) → Written s (.items [v])
  | moreItems {t s : List Char} {vs : List Value} {v : Value} : Written t (.items vs) →
      Written s (.item v) → Written (t ++ ',' :: s) (.items (vs ++ [v]))
  | member {g g' n s : List Char} {name : UnitText} {v : Value} : Gap g → IsString n name → Gap g' →
      Written s (.item v) → Written (g ++ (n ++ (g' ++ ':' :: s))) (.member name v)
  | oneMember {s : List Char} {name : UnitText} {v : Value} : Written s (.member name v) →
      Written s (.members [(name, v)])
  | moreMembers {t s : List Char} {ms : List (UnitText × Value)} {name : UnitText} {v : Value} :
      Written t (.members ms) → Written s (.member name v) →
      Written (t ++ ',' :: s) (.members (ms ++ [(name, v)]))

/-- The text is JSON and stands for the value. -/
def Denotes (text : String) (v : Value) : Prop := Written text.toList (.item v)

variable {g g' s : List Char} {v : Value}

theorem Gap.nil : Gap [] := by
  intro c hc
  cases hc

theorem Gap.append (h : Gap g) (h' : Gap g') : Gap (g ++ g') := by
  intro c hc
  rcases List.mem_append.1 hc with hc | hc
  · exact h c hc
  · exact h' c hc

theorem Gap.of_cons {c : Char} (h : Gap (c :: g)) : isGap c = true ∧ Gap g := by
  refine ⟨?_, fun c hc => h c (List.mem_cons_of_mem _ hc)⟩
  rcases h c List.mem_cons_self with rfl | rfl | rfl | rfl <;> rfl

theorem Gap.singleton {c : Char} (h : isGap c = true) : Gap [c] := by
  intro d hd
  obtain rfl := List.mem_singleton.1 hd
  simpa [isGap, or_assoc] using h

theorem Written.item_of_value (h : Written s (.value v)) : Written s (.item v) := by
  simpa using Written.item .nil h .nil

end GuidAudit.Json
