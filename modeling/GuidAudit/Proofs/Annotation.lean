import GuidAudit.Header
import GuidAudit.Proofs.Run

namespace GuidAudit

variable {s t rest arguments : List Char} {c : Char} {n : Int}

/-- How many more parentheses are opened in a text than closed. -/
def depth (s : List Char) : Int := s.count '(' - s.count ')'

/-- Arguments with `n` parentheses open before them. At most one is open at any time, and none is
at the end. -/
structure ShallowFrom (n : Int) (arguments : List Char) : Prop where
  within : ∀ front, front <+: arguments → 0 ≤ n + depth front ∧ n + depth front ≤ 1
  closed : n + depth arguments = 0

/-- An annotation line in its parts. -/
structure AnnotationParts where
  indent : List Char
  margin : List Char
  arguments : List Char
  tail : List Char
  indent_blank : AllBlank indent
  margin_blank : AllBlank margin
  within : ∀ front, front <+: arguments → 0 ≤ depth front ∧ depth front ≤ 1
  closed : depth arguments = 0
  tail_blank : AllBlank tail

def AnnotationParts.chars (a : AnnotationParts) : List Char :=
  a.indent ++ "UPROPERTY".toList ++ a.margin ++ '(' :: a.arguments ++ ')' :: a.tail

/-- One pass with a counter of open parentheses: what follows the one that brings it down to zero,
unless it came to three before. -/
def afterDepthZero? : (depth : Nat) → List Char → Option (List Char)
  | _, [] => none
  | depth, '(' :: s => if depth + 1 = 3 then none else afterDepthZero? (depth + 1) s
  | depth, ')' :: s => if depth - 1 = 0 then some s else afterDepthZero? (depth - 1) s
  | depth, _ :: s => afterDepthZero? depth s

/-- The arguments as a pattern has them: any number of other characters, and of pairs of parentheses
with nothing but other characters between them. -/
inductive ArgumentPattern : List Char → Prop
  | nil : ArgumentPattern []
  | other {c : Char} {s : List Char} : c ≠ '(' → c ≠ ')' → ArgumentPattern s →
      ArgumentPattern (c :: s)
  | pair {inner s : List Char} : '(' ∉ inner → ')' ∉ inner → ArgumentPattern s →
      ArgumentPattern ('(' :: inner ++ ')' :: s)

/-- What one character adds to the depth. -/
def turn (c : Char) : Int := depth [c]

theorem turn_of_ne (hopen : c ≠ '(') (hclose : c ≠ ')') : turn c = 0 := by
  simp [turn, depth, hopen, hclose]

theorem depth_append (s t : List Char) : depth (s ++ t) = depth s + depth t := by
  simp only [depth, List.count_append]
  omega

theorem depth_cons (c : Char) (s : List Char) : depth (c :: s) = turn c + depth s :=
  depth_append [c] s

namespace ShallowFrom

theorem bounds (h : ShallowFrom n s) : 0 ≤ n ∧ n ≤ 1 := by
  have hn := h.within [] List.nil_prefix
  rwa [depth, List.count_nil, List.count_nil, Int.sub_self, Int.add_zero] at hn

theorem nil : ShallowFrom 0 [] := by
  refine ⟨fun front hfront => ?_, rfl⟩
  rw [List.prefix_nil.1 hfront]
  decide

/-- The count of what is open carries the condition from one character to the next. -/
theorem cons_iff : ShallowFrom n (c :: s) ↔ (0 ≤ n ∧ n ≤ 1) ∧ ShallowFrom (n + turn c) s := by
  constructor
  · intro h
    refine ⟨h.bounds, fun front hfront => ?_, ?_⟩
    · have hcons := h.within (c :: front) (List.cons_prefix_cons.2 ⟨rfl, hfront⟩)
      rwa [depth_cons, ← Int.add_assoc] at hcons
    · rw [Int.add_assoc, ← depth_cons]
      exact h.closed
  · rintro ⟨hn, h⟩
    refine ⟨fun front hfront => ?_, ?_⟩
    · cases front with
      | nil => simpa [depth] using hn
      | cons d front =>
        obtain ⟨rfl, htail⟩ := List.cons_prefix_cons.1 hfront
        rw [depth_cons, ← Int.add_assoc]
        exact h.within front htail
    · rw [depth_cons, ← Int.add_assoc]
      exact h.closed

theorem cons_of_ne (hopen : c ≠ '(') (hclose : c ≠ ')') :
    ShallowFrom n (c :: s) ↔ ShallowFrom n s := by
  rw [cons_iff, turn_of_ne hopen hclose, Int.add_zero]
  exact and_iff_right_of_imp bounds

theorem cons_open : ShallowFrom 0 ('(' :: s) ↔ ShallowFrom 1 s := by
  rw [cons_iff]
  exact and_iff_right (by decide)

theorem cons_close : ShallowFrom 1 (')' :: s) ↔ ShallowFrom 0 s := by
  rw [cons_iff]
  exact and_iff_right (by decide)

theorem not_cons_open : ¬ ShallowFrom 1 ('(' :: s) := by
  intro h
  have hn : (0 : Int) ≤ 2 ∧ (2 : Int) ≤ 1 := (cons_iff.1 h).2.bounds
  omega

theorem not_cons_close : ¬ ShallowFrom 0 (')' :: s) := by
  intro h
  have hn : (0 : Int) ≤ -1 ∧ (-1 : Int) ≤ 1 := (cons_iff.1 h).2.bounds
  omega

end ShallowFrom

/-- How many parentheses are open inside the arguments. -/
def openInside (nested : Bool) : Int := if nested then 1 else 0

theorem afterArguments?_complete {nested : Bool} (h : ShallowFrom (openInside nested) arguments) :
    afterArguments? nested (arguments ++ ')' :: rest) = some rest := by
  induction arguments generalizing nested with
  | nil =>
    cases nested with
    | false => rfl
    | true => exact absurd h.closed (by decide)
  | cons c s ih =>
    by_cases hopen : c = '('
    · subst hopen
      cases nested with
      | false => exact ih (ShallowFrom.cons_open.1 h)
      | true => exact absurd h ShallowFrom.not_cons_open
    · by_cases hclose : c = ')'
      · subst hclose
        cases nested with
        | false => exact absurd h ShallowFrom.not_cons_close
        | true => exact ih (ShallowFrom.cons_close.1 h)
      · have hrest := ih ((ShallowFrom.cons_of_ne hopen hclose).1 h)
        cases nested <;> simpa [afterArguments?, hopen, hclose] using hrest

theorem afterArguments?_sound {nested : Bool} (h : afterArguments? nested s = some rest) :
    ∃ arguments, s = arguments ++ ')' :: rest ∧ ShallowFrom (openInside nested) arguments := by
  fun_induction afterArguments? nested s with
  | case1 => cases h
  | case2 s ih =>
    obtain ⟨arguments, rfl, ha⟩ := ih h
    exact ⟨'(' :: arguments, rfl, ShallowFrom.cons_open.2 ha⟩
  | case3 => cases h
  | case4 s =>
    cases h
    exact ⟨[], rfl, ShallowFrom.nil⟩
  | case5 s ih =>
    obtain ⟨arguments, rfl, ha⟩ := ih h
    exact ⟨')' :: arguments, rfl, ShallowFrom.cons_close.2 ha⟩
  | case6 nested c s hopen hopen' hclose hclose' ih =>
    obtain ⟨arguments, rfl, ha⟩ := ih h
    have hc : c ≠ '(' ∧ c ≠ ')' := by
      cases nested with
      | false => exact ⟨hopen rfl, hclose rfl⟩
      | true => exact ⟨hopen' rfl, hclose' rfl⟩
    exact ⟨c :: arguments, rfl, (ShallowFrom.cons_of_ne hc.1 hc.2).2 ha⟩

/-- The arguments end at the parenthesis that closes the first one. -/
theorem afterArguments?_eq_some_iff : afterArguments? false s = some rest ↔
    ∃ arguments, s = arguments ++ ')' :: rest ∧ ShallowFrom 0 arguments := by
  constructor
  · exact afterArguments?_sound
  · rintro ⟨arguments, rfl, h⟩
    exact afterArguments?_complete h

/-- The counter holds the outer parenthesis besides those inside. -/
theorem afterDepthZero?_eq (nested : Bool) (s : List Char) :
    afterDepthZero? (if nested then 2 else 1) s = afterArguments? nested s := by
  fun_induction afterArguments? nested s with
  | case1 nested => rfl
  | case2 s ih => exact ih
  | case3 s => rfl
  | case4 s => rfl
  | case5 s ih => exact ih
  | case6 nested c s hopen hopen' hclose hclose' ih =>
    rw [afterDepthZero?]
    · exact ih
    · rintro rfl
      cases nested with
      | false => exact hopen rfl rfl
      | true => exact hopen' rfl rfl
    · rintro rfl
      cases nested with
      | false => exact hclose rfl rfl
      | true => exact hclose' rfl rfl

/-- Every annotation line begins with the keyword and a parenthesis, and what follows its arguments
is blank. -/
theorem isAnnotationLine_iff {line : List Char} : isAnnotationLine line = true ↔
    ∃ indent margin s tail, AllBlank indent ∧ AllBlank margin ∧ AllBlank tail ∧
      line = indent ++ "UPROPERTY".toList ++ margin ++ '(' :: s ∧
      afterArguments? false s = some tail := by
  have hkeyword {line rest : List Char} :
      after? propertySpecifier.toList (skipBlanks line) = some rest ↔
        ∃ indent, AllBlank indent ∧ line = indent ++ ("UPROPERTY".toList ++ rest) :=
    after?_skipBlanks_eq_some_iff (Stops.cons (by decide) _)
  constructor
  · intro h
    rw [isAnnotationLine] at h
    split at h
    · cases h
    rename_i behind hbehind
    split at h
    · rename_i s hopen
      obtain ⟨tail, htail, hblank⟩ := (Option.any_eq_true _ _).1 h
      obtain ⟨margin, hmargin, rfl, _⟩ := skipBlanks_eq_iff.1 hopen
      obtain ⟨indent, hindent, rfl⟩ := hkeyword.1 hbehind
      refine ⟨indent, margin, s, tail, hindent, hmargin, List.all_eq_true.1 hblank, ?_, htail⟩
      simp only [List.append_assoc]
    · cases h
  · rintro ⟨indent, margin, s, tail, hindent, hmargin, htail, rfl, harguments⟩
    have hbehind : after? propertySpecifier.toList
        (skipBlanks (indent ++ "UPROPERTY".toList ++ margin ++ '(' :: s)) =
        some (margin ++ '(' :: s) :=
      hkeyword.2 ⟨indent, hindent, by simp only [List.append_assoc]⟩
    have hopen : skipBlanks (margin ++ '(' :: s) = '(' :: s :=
      skipBlanks_eq_iff.2 ⟨margin, hmargin, rfl, Stops.cons (by decide) _⟩
    have hall : tail.all isBlank = true := List.all_eq_true.2 htail
    simp only [isAnnotationLine, hbehind, hopen, harguments, Option.any_some, hall]

theorem ShallowFrom.append_close {inner : List Char} (hopen : '(' ∉ inner) (hclose : ')' ∉ inner)
    (h : ShallowFrom 0 s) : ShallowFrom 1 (inner ++ ')' :: s) := by
  induction inner with
  | nil => exact cons_close.2 h
  | cons c inner ih =>
    rw [List.mem_cons, not_or] at hopen hclose
    exact (cons_of_ne (Ne.symm hopen.1) (Ne.symm hclose.1)).2 (ih hopen.2 hclose.2)

theorem ArgumentPattern.shallow (h : ArgumentPattern s) : ShallowFrom 0 s := by
  induction h with
  | nil => exact ShallowFrom.nil
  | other hopen hclose _ ih => exact (ShallowFrom.cons_of_ne hopen hclose).2 ih
  | pair hopen hclose _ ih => exact ShallowFrom.cons_open.2 (ih.append_close hopen hclose)

/-- Inside a pair the pattern goes on to the end of the pair first. -/
theorem ShallowFrom.pattern_within (s : List Char) : (ShallowFrom 0 s → ArgumentPattern s) ∧
    (ShallowFrom 1 s → ∃ inner t, '(' ∉ inner ∧ ')' ∉ inner ∧ s = inner ++ ')' :: t ∧
      ArgumentPattern t) := by
  induction s with
  | nil => exact ⟨fun _ => .nil, fun h => absurd h.closed (by decide)⟩
  | cons c s ih =>
    by_cases hopen : c = '('
    · subst hopen
      refine ⟨fun h => ?_, fun h => absurd h not_cons_open⟩
      obtain ⟨inner, t, hi, hi', rfl, ht⟩ := ih.2 (cons_open.1 h)
      exact .pair hi hi' ht
    · by_cases hclose : c = ')'
      · subst hclose
        refine ⟨fun h => absurd h not_cons_close, fun h => ?_⟩
        exact ⟨[], s, List.not_mem_nil, List.not_mem_nil, rfl, ih.1 (cons_close.1 h)⟩
      · refine ⟨fun h => .other hopen hclose (ih.1 ((cons_of_ne hopen hclose).1 h)), fun h => ?_⟩
        obtain ⟨inner, t, hi, hi', rfl, ht⟩ := ih.2 ((cons_of_ne hopen hclose).1 h)
        refine ⟨c :: inner, t, ?_, ?_, rfl, ht⟩
        · exact List.not_mem_cons_of_ne_of_not_mem (Ne.symm hopen) hi
        · exact List.not_mem_cons_of_ne_of_not_mem (Ne.symm hclose) hi'

theorem shallow_iff_pattern : ShallowFrom 0 s ↔ ArgumentPattern s :=
  ⟨(ShallowFrom.pattern_within s).1, ArgumentPattern.shallow⟩

namespace AnnotationParts

variable (a : AnnotationParts)

theorem shallow : ShallowFrom 0 a.arguments where
  within front hfront := by simpa using a.within front hfront
  closed := by simpa using a.closed

/-- With the outer parenthesis counted, the depth is one or two until the line closes it. -/
theorem depth_front {front : List Char} (h : front <+: '(' :: a.arguments) (hne : front ≠ []) :
    1 ≤ depth front ∧ depth front ≤ 2 := by
  cases front with
  | nil => exact absurd rfl hne
  | cons c front =>
    obtain ⟨rfl, htail⟩ := List.cons_prefix_cons.1 h
    have hturn : turn '(' = 1 := rfl
    have hwithin := a.within front htail
    rw [depth_cons, hturn]
    omega

theorem depth_closed : depth ('(' :: a.arguments ++ [')']) = 0 := by
  rw [List.cons_append, depth_cons, depth_append, a.closed]
  rfl

end AnnotationParts

theorem isAnnotationLine_iff_exists {line : List Char} :
    isAnnotationLine line = true ↔ ∃ a : AnnotationParts, a.chars = line := by
  rw [isAnnotationLine_iff]
  constructor
  · rintro ⟨indent, margin, s, tail, hindent, hmargin, htail, rfl, hs⟩
    obtain ⟨arguments, rfl, h⟩ := afterArguments?_eq_some_iff.1 hs
    refine ⟨⟨indent, margin, arguments, tail, hindent, hmargin, ?_, ?_, htail⟩, ?_⟩
    · simpa using h.within
    · simpa using h.closed
    · simp [AnnotationParts.chars]
  · rintro ⟨a, rfl⟩
    refine ⟨a.indent, a.margin, _, a.tail, a.indent_blank, a.margin_blank, a.tail_blank, ?_,
      afterArguments?_eq_some_iff.2 ⟨a.arguments, rfl, a.shallow⟩⟩
    simp [AnnotationParts.chars]

/-- A line is an annotation exactly if its parentheses balance with at most one pair inside the
outer one at a time. One pass with a counter tells that, which ends where the count first comes back
to zero, and so does a pattern of single characters and pairs. -/
theorem annotation_line_iff_balanced (line : List Char) :
    (isAnnotationLine line = true ↔ ∃ a : AnnotationParts, a.chars = line) ∧
    (isAnnotationLine line = true ↔ ∃ indent margin s tail,
      AllBlank indent ∧ AllBlank margin ∧ AllBlank tail ∧
      line = indent ++ "UPROPERTY".toList ++ margin ++ '(' :: s ∧
      afterDepthZero? 1 s = some tail) ∧
    (isAnnotationLine line = true ↔ ∃ indent margin arguments tail,
      AllBlank indent ∧ AllBlank margin ∧ AllBlank tail ∧
      line = indent ++ "UPROPERTY".toList ++ margin ++ '(' :: arguments ++ ')' :: tail ∧
      ArgumentPattern arguments) ∧
    ∀ a : AnnotationParts, a.chars = line →
      afterDepthZero? 1 (a.arguments ++ ')' :: a.tail) = some a.tail ∧
      (∀ front, front <+: '(' :: a.arguments → front ≠ [] → 1 ≤ depth front ∧ depth front ≤ 2) ∧
      depth ('(' :: a.arguments ++ [')']) = 0 := by
  have hcount (s : List Char) : afterDepthZero? 1 s = afterArguments? false s :=
    afterDepthZero?_eq false s
  refine ⟨isAnnotationLine_iff_exists, ?_, ?_,
    fun a _ => ⟨?_, fun _ => a.depth_front, a.depth_closed⟩⟩
  · simp only [hcount, isAnnotationLine_iff]
  · simp only [isAnnotationLine_iff, afterArguments?_eq_some_iff, shallow_iff_pattern]
    constructor
    · rintro ⟨indent, margin, s, tail, hindent, hmargin, htail, rfl, arguments, rfl, h⟩
      exact ⟨indent, margin, arguments, tail, hindent, hmargin, htail, by simp, h⟩
    · rintro ⟨indent, margin, arguments, tail, hindent, hmargin, htail, rfl, h⟩
      exact ⟨indent, margin, _, tail, hindent, hmargin, htail, by simp, arguments, rfl, h⟩
  · rw [hcount]
    exact afterArguments?_eq_some_iff.2 ⟨a.arguments, rfl, a.shallow⟩

end GuidAudit
