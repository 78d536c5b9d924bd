namespace GuidAudit

/-- White space and line terminators, the byte order mark among them. -/
def isBlank (c : Char) : Bool :=
  let n := c.toNat
  (0x09 ≤ n && n ≤ 0x0D) || n == 0x20 || n == 0xA0 || n == 0x1680 ||
    (0x2000 ≤ n && n ≤ 0x200A) || n == 0x2028 || n == 0x2029 || n == 0x202F ||
    n == 0x205F || n == 0x3000 || n == 0xFEFF

/-- The characters of an identifier. -/
def isWord (c : Char) : Bool := c.isAlphanum || c == '_'

/-- The characters that end a line comment. -/
def isLineTerminator (c : Char) : Bool :=
  c == '\n' || c == '\r' || c == '\u2028' || c == '\u2029'

def skipBlanks (s : List Char) : List Char := s.dropWhile isBlank

/-- Skips a run of blanks that must not be empty. -/
def skipBlanks? : List Char → Option (List Char)
  | [] => none
  | c :: s => if isBlank c then some (skipBlanks s) else none

/-- The longest run of word characters, which must not be empty, and what follows it. -/
def word? (s : List Char) : Option (List Char × List Char) :=
  match s.takeWhile isWord with
  | [] => none
  | w => some (w, s.dropWhile isWord)

/-- What follows a fixed beginning. -/
def after? : List Char → List Char → Option (List Char)
  | [], s => some s
  | _ :: _, [] => none
  | w :: ws, c :: cs => if w = c then after? ws cs else none

/-- What stands before a fixed end. -/
def before? (w s : List Char) : Option (List Char) := (after? w.reverse s.reverse).map List.reverse

def trimRight (s : List Char) : List Char := (s.reverse.dropWhile isBlank).reverse

def trim (s : List Char) : List Char := trimRight (skipBlanks s)

theorem after?_append (w s : List Char) : after? w (w ++ s) = some s := by
  induction w with
  | nil => rfl
  | cons c w ih => simp [after?, ih]

theorem after?_eq_some_iff {w s r : List Char} : after? w s = some r ↔ s = w ++ r := by
  constructor
  · intro h
    fun_induction after? w s with
    | case1 => simpa using h
    | case2 => simp at h
    | case3 w ws cs ih => simp [ih h]
    | case4 => simp at h
  · rintro rfl
    exact after?_append w r

theorem before?_eq_some_iff {w s r : List Char} : before? w s = some r ↔ s = r ++ w := by
  constructor
  · intro h
    obtain ⟨t, ht, rfl⟩ := Option.map_eq_some_iff.1 h
    rw [← List.reverse_reverse s, after?_eq_some_iff.1 ht]
    simp
  · rintro rfl
    rw [before?, List.reverse_append, after?_append]
    simp

theorem word?_eq_some {s w r : List Char} (h : word? s = some (w, r)) :
    s = w ++ r ∧ w ≠ [] ∧ ∀ c ∈ w, isWord c := by
  unfold word? at h
  split at h
  · simp at h
  next hw =>
    simp only [Option.some.injEq, Prod.mk.injEq] at h
    obtain ⟨rfl, rfl⟩ := h
    refine ⟨(List.takeWhile_append_dropWhile).symm, hw, fun c hc => ?_⟩
    have := List.all_takeWhile (p := isWord) (l := s)
    exact List.all_eq_true.1 this c hc

def decimalChars : Int → List Char
  | .ofNat n => Nat.toDigits 10 n
  | .negSucc n => '-' :: Nat.toDigits 10 (n + 1)

def decimal (n : Int) : String := String.ofList (decimalChars n)

/-- The number that a run of digits stands for. -/
def ofDigits (digits : List Char) : Nat := Nat.ofDigitChars 10 digits 0

def hexValue? (c : Char) : Option Nat :=
  if c.isDigit then some (c.toNat - '0'.toNat)
  else if 'a' ≤ c ∧ c ≤ 'f' then some (c.toNat - 'a'.toNat + 10)
  else if 'A' ≤ c ∧ c ≤ 'F' then some (c.toNat - 'A'.toNat + 10)
  else none

/-- The number that digits stand for in a base of at most sixteen, after those that have
been read. -/
def numberIn? (base : Nat) : List Char → Nat → Option Nat
  | [], n => some n
  | c :: s, n =>
    match hexValue? c with
    | some d => if d < base then numberIn? base s (n * base + d) else none
    | none => none

theorem ofDigits_toDigits (n : Nat) : ofDigits (Nat.toDigits 10 n) = n :=
  Nat.ofDigitChars_toDigits (by decide) (by decide)

abbrev Line := List Char

/-- A line ends at a line feed, together with one carriage return right before it. -/
def lines : List Char → List Line
  | [] => [[]]
  | '\r' :: '\n' :: s => [] :: lines s
  | '\n' :: s => [] :: lines s
  | c :: s => (lines s).modifyHead (c :: ·)

/-- The pieces between the characters at which a text is cut. -/
def cutAt (isCut : Char → Bool) : List Char → List (List Char)
  | [] => [[]]
  | c :: s => if isCut c then [] :: cutAt isCut s else (cutAt isCut s).modifyHead (c :: ·)

/-- The lines of a text with the line feeds that end them. -/
def endedLines : List Char → List (List Char)
  | [] => []
  | c :: s =>
    if c = '\n' then [c] :: endedLines s
    else
      match endedLines s with
      | [] => [[c]]
      | l :: ls => (c :: l) :: ls

theorem lines_ne_nil (s : List Char) : lines s ≠ [] := by
  fun_induction lines s with
  | case1 => simp
  | case2 => simp
  | case3 => simp
  | case4 c s _ _ ih =>
    cases h : lines s with
    | nil => exact absurd h ih
    | cons => simp

end GuidAudit
