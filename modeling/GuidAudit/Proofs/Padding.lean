import GuidAudit.Header
import GuidAudit.Proofs.Run

namespace GuidAudit

variable {s t w : List Char}

theorem afterArguments?_eq_none {nested : Bool} (h : ')' ∉ s) :
    afterArguments? nested s = none := by
  fun_induction afterArguments? nested s with
  | case1 => rfl
  | case2 s ih => exact ih fun hs => h (List.mem_cons_of_mem _ hs)
  | case3 => rfl
  | case4 s => exact absurd List.mem_cons_self h
  | case5 s => exact absurd List.mem_cons_self h
  | case6 nested c s _ _ _ _ ih => exact ih fun hs => h (List.mem_cons_of_mem _ hs)

theorem decide_ne_of_not_mem {d : Char} (h : d ∉ s) : ∀ c ∈ s, decide (c ≠ d) = true := by
  intro c hc
  rw [decide_eq_true_eq]
  rintro rfl
  exact h hc

theorem dropWhile_ne_eq_nil {d : Char} (h : d ∉ s) : s.dropWhile (· ≠ d) = [] := by
  have hs := decide_ne_of_not_mem h
  rw [← List.append_nil s, List.dropWhile_append_of_pos hs]
  rfl

theorem dropWhile_ne_append_cons {d : Char} (h : d ∉ s) :
    (s ++ d :: t).dropWhile (· ≠ d) = d :: t := by
  rw [List.dropWhile_append_of_pos (decide_ne_of_not_mem h)]
  simp

theorem initializer?_eq_none (h : ';' ∉ s) : initializer? s = none := by
  rw [initializer?, dropWhile_ne_eq_nil h]
  cases s.takeWhile (· ≠ ';') <;> rfl

theorem initializer?_of_semicolon (h : ';' ∉ s) : initializer? (s ++ ';' :: t) =
    if s = [] then none else some (initializerText s, t) := by
  rw [initializer?, List.takeWhile_append_of_pos (decide_ne_of_not_mem h),
    dropWhile_ne_append_cons h]
  cases s with
  | nil => rfl
  | cons c s => simp

/-- Blanks that can stand around a line without ending it or a comment in it. -/
structure Padding where
  chars : List Char
  blank : ∀ c ∈ chars, isBlank c = true
  unbroken : ∀ c ∈ chars, isLineTerminator c = false

namespace Padding

variable (pad : Padding)

theorem not_mem {c : Char} (hc : isBlank c = false) : c ∉ pad.chars := by
  intro h
  rw [pad.blank c h] at hc
  cases hc

theorem isWord_eq_false {c : Char} (h : c ∈ pad.chars) : isWord c = false := by
  apply Bool.eq_false_iff.2
  intro hw
  exact pad.not_mem (isBlank_eq_false_of_isWord hw) h

theorem head_ne {c d : Char} (h : pad.chars = c :: t) (hd : isBlank d = false) : c ≠ d := by
  rintro rfl
  exact pad.not_mem hd (h ▸ List.mem_cons_self)

/-- Where nothing but blanks is left, the padding is skipped with them. -/
theorem skipBlanks_append (s : List Char) :
    (skipBlanks s = [] ∧ skipBlanks (s ++ pad.chars) = []) ∨
      (skipBlanks s ≠ [] ∧ skipBlanks (s ++ pad.chars) = skipBlanks s ++ pad.chars) := by
  have happend : skipBlanks (s ++ pad.chars) =
      if (skipBlanks s).isEmpty then skipBlanks pad.chars else skipBlanks s ++ pad.chars :=
    List.dropWhile_append
  rw [happend]
  split
  · rename_i hs
    exact .inl ⟨List.isEmpty_iff.1 hs, skipBlanks_eq_nil_of_blank pad.blank⟩
  · rename_i hs
    exact .inr ⟨fun h => hs (List.isEmpty_iff.2 h), rfl⟩

theorem exists_skipBlanks_append (s : List Char) :
    ∃ rest : Padding, skipBlanks (s ++ pad.chars) = skipBlanks s ++ rest.chars := by
  rcases pad.skipBlanks_append s with ⟨hs, happend⟩ | ⟨_, happend⟩
  · exact ⟨⟨[], nofun, nofun⟩, by rw [happend, hs]; rfl⟩
  · exact ⟨pad, happend⟩

theorem after?_append (hw : w.any isBlank = false) (s : List Char) :
    after? w (s ++ pad.chars) = (after? w s).map (· ++ pad.chars) := by
  fun_induction after? w s with
  | case1 s => rfl
  | case2 c w =>
    cases hp : pad.chars with
    | nil => rfl
    | cons d rest =>
      rw [List.any_cons, Bool.or_eq_false_iff] at hw
      have hd : d ≠ c := pad.head_ne hp hw.1
      simp [after?, hd.symm]
  | case3 w c s ih =>
    rw [List.any_cons, Bool.or_eq_false_iff] at hw
    simpa [after?] using ih hw.2
  | case4 c w d s hc => simp [after?, hc]

section Runs

variable {p : Char → Bool} (hp : ∀ c ∈ pad.chars, p c = false)
include hp

/-- A run that padding cannot continue ends where it ended before. -/
theorem takeWhile_append (s : List Char) : (s ++ pad.chars).takeWhile p = s.takeWhile p := by
  induction s with
  | nil =>
    cases h : pad.chars with
    | nil => rfl
    | cons c rest => simp [hp c (h ▸ List.mem_cons_self)]
  | cons c s ih =>
    rw [List.cons_append, List.takeWhile_cons, List.takeWhile_cons, ih]

theorem dropWhile_append (s : List Char) :
    (s ++ pad.chars).dropWhile p = s.dropWhile p ++ pad.chars := by
  suffices h : s.takeWhile p ++ (s ++ pad.chars).dropWhile p =
      s.takeWhile p ++ (s.dropWhile p ++ pad.chars) from List.append_cancel_left h
  rw [← List.append_assoc, List.takeWhile_append_dropWhile, ← pad.takeWhile_append hp,
    List.takeWhile_append_dropWhile]

end Runs

theorem word?_append (s : List Char) :
    word? (s ++ pad.chars) = (word? s).map fun (name, rest) => (name, rest ++ pad.chars) := by
  have hword : ∀ c ∈ pad.chars, isWord c = false := fun _ => pad.isWord_eq_false
  rw [word?, word?, pad.takeWhile_append hword, pad.dropWhile_append hword]
  cases s.takeWhile isWord <;> rfl

/-- Padding can take the place of blanks that are wanted, but then nothing follows them. -/
theorem exists_skipBlanks?_append (s : List Char) :
    ∃ rest : Padding, ∀ {α : Type} (read : List Char → Option α), read [] = none →
      (skipBlanks? (s ++ pad.chars)).bind read =
        (skipBlanks? s).bind fun t => read (t ++ rest.chars) := by
  cases s with
  | nil =>
    refine ⟨pad, fun read hread => ?_⟩
    cases h : pad.chars with
    | nil => rfl
    | cons c t =>
      have hblank : ∀ d ∈ c :: t, isBlank d = true := h ▸ pad.blank
      have hskip : skipBlanks t = [] :=
        skipBlanks_eq_nil_of_blank fun d hd => hblank d (List.mem_cons_of_mem c hd)
      simp [skipBlanks?, hblank c List.mem_cons_self, hskip, hread]
  | cons c s =>
    obtain ⟨rest, hrest⟩ := pad.exists_skipBlanks_append s
    refine ⟨rest, fun read _ => ?_⟩
    by_cases hc : isBlank c = true
    · simp [skipBlanks?, hc, hrest]
    · simp [skipBlanks?, hc]

theorem exists_skipBlanks?_bind_word?_append (s : List Char) :
    ∃ rest : Padding, (skipBlanks? (s ++ pad.chars)).bind word? =
      ((skipBlanks? s).bind word?).map fun (name, t) => (name, t ++ rest.chars) := by
  obtain ⟨rest, hrest⟩ := pad.exists_skipBlanks?_append s
  refine ⟨rest, ?_⟩
  rw [hrest word? rfl, Option.map_bind]
  simp only [rest.word?_append]
  rfl

theorem afterArguments?_append (nested : Bool) (s : List Char) :
    afterArguments? nested (s ++ pad.chars) =
      (afterArguments? nested s).map (· ++ pad.chars) := by
  fun_induction afterArguments? nested s with
  | case1 nested => exact afterArguments?_eq_none (pad.not_mem (by decide))
  | case2 s ih => simpa [afterArguments?] using ih
  | case3 s => simp [afterArguments?]
  | case4 s => simp [afterArguments?]
  | case5 s ih => simpa [afterArguments?] using ih
  | case6 nested c s h₁ h₂ h₃ h₄ ih =>
    rw [List.cons_append, afterArguments?]
    · exact ih
    all_goals assumption

theorem isTrailer_append (s : List Char) : isTrailer (s ++ pad.chars) = isTrailer s := by
  rcases pad.skipBlanks_append s with ⟨hs, happend⟩ | ⟨hs, happend⟩
  · rw [isTrailer, isTrailer, hs, happend]
  · obtain ⟨c, t, ht⟩ := List.exists_cons_of_ne_nil hs
    rw [isTrailer, isTrailer, happend, ht]
    cases t with
    | nil =>
      -- One slash and no other: padding does not supply the second.
      cases hp : pad.chars with
      | nil => rfl
      | cons d rest =>
        have hd : d ≠ '/' := pad.head_ne hp (by decide)
        simp [hd]
    | cons d t =>
      by_cases hslash : c = '/' ∧ d = '/'
      · obtain ⟨rfl, rfl⟩ := hslash
        have hall : pad.chars.all (fun c => !isLineTerminator c) = true := by
          simpa using pad.unbroken
        simp only [List.cons_append, List.all_append, hall, Bool.and_true]
      · simp only [List.cons_append]
        split
        · rename_i he
          simp_all
        · simp_all
        · split <;> simp_all

theorem initializer?_append (s : List Char) :
    initializer? (s ++ pad.chars) =
      (initializer? s).map fun (text, rest) => (text, rest ++ pad.chars) := by
  by_cases hs : ';' ∈ s
  · obtain ⟨body, rest, rfl, hbody⟩ := List.eq_append_cons_of_mem hs
    rw [List.append_assoc, List.cons_append, initializer?_of_semicolon hbody,
      initializer?_of_semicolon hbody]
    split <;> rfl
  · have hpad : ';' ∉ s ++ pad.chars := by
      rw [List.mem_append, not_or]
      exact ⟨hs, pad.not_mem (by decide)⟩
    rw [initializer?_eq_none hs, initializer?_eq_none hpad]
    rfl

theorem closing?_append (s : List Char) :
    closing? (s ++ pad.chars) =
      (closing? s).map fun (initializer, rest) => (initializer, rest ++ pad.chars) := by
  cases s with
  | nil =>
    cases hp : pad.chars with
    | nil => rfl
    | cons c rest =>
      have hsemicolon : c ≠ ';' := pad.head_ne hp (by decide)
      have hequals : c ≠ '=' := pad.head_ne hp (by decide)
      simp [closing?, hsemicolon, hequals]
  | cons c s =>
    by_cases hsemicolon : c = ';'
    · subst hsemicolon
      rfl
    · by_cases hequals : c = '='
      · subst hequals
        simp only [closing?, List.cons_append, pad.initializer?_append, Option.map_map]
        rfl
      · simp [closing?, hsemicolon, hequals]

theorem ofLine?_append (s : List Char) : Member.ofLine? (s ++ pad.chars) = Member.ofLine? s := by
  have hguid : guidType.toList.any isBlank = false := by decide
  obtain ⟨first, hfirst⟩ := pad.exists_skipBlanks_append s
  rw [Member.ofLine?, Member.ofLine?, hfirst, first.after?_append hguid]
  cases after? guidType.toList (skipBlanks s) with
  | none => rfl
  | some s =>
    obtain ⟨second, hsecond⟩ := first.exists_skipBlanks?_bind_word?_append s
    simp only [Option.map_some, Option.bind_eq_bind, Option.bind_some, ← Option.bind_assoc, hsecond]
    cases (skipBlanks? s).bind word? with
    | none => rfl
    | some found =>
      obtain ⟨name, s⟩ := found
      obtain ⟨third, hthird⟩ := second.exists_skipBlanks_append s
      simp only [Option.map_some, Option.bind_some, hthird, third.closing?_append]
      cases closing? (skipBlanks s) with
      | none => rfl
      | some found =>
        simp only [Option.map_some, Option.bind_some, third.isTrailer_append]

theorem isAnnotationLine_append (s : List Char) :
    isAnnotationLine (s ++ pad.chars) = isAnnotationLine s := by
  have hspecifier : propertySpecifier.toList.any isBlank = false := by decide
  obtain ⟨first, hfirst⟩ := pad.exists_skipBlanks_append s
  rw [isAnnotationLine, isAnnotationLine, hfirst, first.after?_append hspecifier]
  cases after? propertySpecifier.toList (skipBlanks s) with
  | none => rfl
  | some s =>
    obtain ⟨second, hsecond⟩ := first.exists_skipBlanks_append s
    simp only [Option.map_some, hsecond]
    cases skipBlanks s with
    | nil =>
      cases hp : second.chars with
      | nil => rfl
      | cons c rest =>
        have hc : c ≠ '(' := second.head_ne hp (by decide)
        simp [hc]
    | cons c s =>
      by_cases hc : c = '('
      · have hall : second.chars.all isBlank = true := List.all_eq_true.2 second.blank
        subst hc
        simp only [List.cons_append, second.afterArguments?_append]
        cases afterArguments? false s with
        | none => rfl
        | some rest =>
          simp only [Option.map_some, Option.any_some, List.all_append, hall, Bool.and_true]
      · simp [hc]

theorem declaredName?_append (s : List Char) :
    declaredName? (s ++ pad.chars) = declaredName? s := by
  rw [declaredName?, declaredName?, pad.word?_append]
  cases word? s with
  | none => rfl
  | some found =>
    obtain ⟨first, s⟩ := found
    obtain ⟨rest, hrest⟩ := pad.exists_skipBlanks?_bind_word?_append s
    simp only [Option.map_some, Option.bind_eq_bind, Option.bind_some, hrest]
    cases (skipBlanks? s).bind word? <;> rfl

theorem skipStructSpecifier?_append (s : List Char) : ∃ rest : Padding,
    skipStructSpecifier? (s ++ pad.chars) =
      (skipStructSpecifier? s).map (· ++ rest.chars) := by
  have hspecifier : "USTRUCT".toList.any isBlank = false := by decide
  rw [skipStructSpecifier?, skipStructSpecifier?, pad.after?_append hspecifier]
  cases after? "USTRUCT".toList s with
  | none => exact ⟨pad, rfl⟩
  | some s =>
    obtain ⟨first, hfirst⟩ := pad.exists_skipBlanks_append s
    simp only [Option.map_some, hfirst]
    cases skipBlanks s with
    | nil =>
      refine ⟨pad, ?_⟩
      cases hp : first.chars with
      | nil => rfl
      | cons c rest =>
        have hc : c ≠ '(' := first.head_ne hp (by decide)
        simp [hc]
    | cons c s =>
      by_cases hc : c = '('
      · subst hc
        simp only [List.cons_append]
        by_cases hs : ')' ∈ s
        · obtain ⟨arguments, s, rfl, harguments⟩ := List.eq_append_cons_of_mem hs
          obtain ⟨second, hsecond⟩ := first.exists_skipBlanks_append s
          refine ⟨second, ?_⟩
          rw [List.append_assoc, List.cons_append, dropWhile_ne_append_cons harguments,
            dropWhile_ne_append_cons harguments]
          simp only [hsecond, Option.map_some]
        · have hpad : ')' ∉ s ++ first.chars := by
            rw [List.mem_append, not_or]
            exact ⟨hs, first.not_mem (by decide)⟩
          refine ⟨pad, ?_⟩
          rw [dropWhile_ne_eq_nil hs, dropWhile_ne_eq_nil hpad]
          rfl
      · exact ⟨pad, by simp [hc]⟩

theorem structName?_append (s : List Char) : structName? (s ++ pad.chars) = structName? s := by
  have hkeyword : "struct".toList.any isBlank = false := by decide
  obtain ⟨first, hfirst⟩ := pad.exists_skipBlanks_append s
  obtain ⟨second, hsecond⟩ := first.skipStructSpecifier?_append (skipBlanks s)
  rw [structName?, structName?, hfirst, hsecond]
  cases skipStructSpecifier? (skipBlanks s) with
  | none => rfl
  | some s =>
    simp only [Option.map_some, Option.bind_eq_bind, Option.bind_some,
      second.after?_append hkeyword]
    cases after? "struct".toList s with
    | none => rfl
    | some s =>
      obtain ⟨third, hthird⟩ := second.exists_skipBlanks?_append s
      simp only [Option.map_some, Option.bind_some, hthird declaredName? rfl,
        third.declaredName?_append]

theorem trim_append (s : List Char) : trim (s ++ pad.chars) = trim s := by
  obtain ⟨rest, hrest⟩ := pad.exists_skipBlanks_append s
  rw [trim, trim, hrest, trimRight_append_of_blank rest.blank]

end Padding

end GuidAudit
