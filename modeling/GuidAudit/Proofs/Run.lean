import GuidAudit.Text.Basic

namespace GuidAudit

variable {p : Char → Bool} {s t w : List Char} {c : Char}

theorem toNat_bounds_of_isWord (h : isWord c = true) : 48 ≤ c.toNat ∧ c.toNat ≤ 122 := by
  rw [isWord, Bool.or_eq_true, beq_iff_eq] at h
  rcases h with h | rfl
  · change ((decide ('A'.val ≤ c.val ∧ c.val ≤ 'Z'.val) ||
      (decide ('a'.val ≤ c.val) && decide (c.val ≤ 'z'.val))) ||
      (decide ('0'.val ≤ c.val) && decide (c.val ≤ '9'.val))) = true at h
    simp only [Bool.or_eq_true, Bool.and_eq_true, decide_eq_true_eq, UInt32.le_iff_toNat_le] at h
    change ((65 ≤ c.toNat ∧ c.toNat ≤ 90) ∨ (97 ≤ c.toNat ∧ c.toNat ≤ 122)) ∨
      (48 ≤ c.toNat ∧ c.toNat ≤ 57) at h
    omega
  · decide

theorem isBlank_eq_false_of_isWord (h : isWord c = true) : isBlank c = false := by
  have hc := toNat_bounds_of_isWord h
  simp only [isBlank, Bool.or_eq_false_iff, Bool.and_eq_false_iff, decide_eq_false_iff_not,
    beq_eq_false_iff_ne]
  omega

theorem skipBlanks_append_of_blank (h : ∀ c ∈ w, isBlank c = true) :
    skipBlanks (w ++ s) = skipBlanks s :=
  List.dropWhile_append_of_pos h

theorem skipBlanks_eq_nil_of_blank (h : ∀ c ∈ w, isBlank c = true) : skipBlanks w = [] := by
  have hnil := skipBlanks_append_of_blank (s := []) h
  rwa [List.append_nil] at hnil

theorem trimRight_append_of_blank (h : ∀ c ∈ w, isBlank c = true) :
    trimRight (s ++ w) = trimRight s := by
  have hw : ∀ c ∈ w.reverse, isBlank c = true := fun c hc => h c (List.mem_reverse.1 hc)
  rw [trimRight, List.reverse_append, List.dropWhile_append_of_pos hw]
  rfl

def AllBlank (s : List Char) : Prop := ∀ c ∈ s, isBlank c = true

/-- At least one character, and none but those of an identifier. -/
structure IsWordRun (s : List Char) : Prop where
  ne_nil : s ≠ []
  word : ∀ c ∈ s, isWord c = true

/-- The next character, if there is one, is not of the given kind. -/
def Stops (p : Char → Bool) (s : List Char) : Prop := ∀ c ∈ s.head?, p c = false

theorem Stops.cons (h : p c = false) (s : List Char) : Stops p (c :: s) := by
  intro d hd
  obtain rfl := Option.some.inj hd
  exact h

theorem stops_dropWhile (p : Char → Bool) (s : List Char) : Stops p (s.dropWhile p) := by
  intro c hc
  have h := List.head?_dropWhile_not p s
  rw [Option.mem_def.1 hc] at h
  simpa using h

theorem Stops.dropWhile_eq (h : Stops p s) : s.dropWhile p = s := by
  cases s with
  | nil => rfl
  | cons c s => exact List.dropWhile_cons_of_neg (by simp [h c rfl])

theorem Stops.takeWhile_eq (h : Stops p s) : s.takeWhile p = [] := by
  cases s with
  | nil => rfl
  | cons c s => exact List.takeWhile_cons_of_neg (by simp [h c rfl])

section Append

variable (hw : ∀ c ∈ w, p c = true) (hs : Stops p s)
include hw hs

theorem dropWhile_append_of_stops : (w ++ s).dropWhile p = s := by
  rw [List.dropWhile_append_of_pos hw, hs.dropWhile_eq]

theorem takeWhile_append_of_stops : (w ++ s).takeWhile p = w := by
  rw [List.takeWhile_append_of_pos hw, hs.takeWhile_eq, List.append_nil]

end Append

theorem AllBlank.stops_isWord (h : AllBlank w) (hs : Stops isWord s) : Stops isWord (w ++ s) := by
  cases w with
  | nil => exact hs
  | cons c w =>
    apply Stops.cons
    apply Bool.eq_false_iff.2
    intro hc
    have hblank := isBlank_eq_false_of_isWord hc
    rw [h c List.mem_cons_self] at hblank
    cases hblank

theorem AllBlank.not_mem (h : AllBlank w) (hc : isBlank c = false) : c ∉ w := by
  intro hm
  rw [h c hm] at hc
  cases hc

theorem IsWordRun.not_mem (h : IsWordRun w) (hc : isWord c = false) : c ∉ w := by
  intro hm
  rw [h.word c hm] at hc
  cases hc

theorem IsWordRun.stops_isBlank (h : IsWordRun w) (s : List Char) : Stops isBlank (w ++ s) := by
  cases w with
  | nil => exact absurd rfl h.ne_nil
  | cons c w => exact Stops.cons (isBlank_eq_false_of_isWord (h.word c List.mem_cons_self)) _

theorem stops_skipBlanks (s : List Char) : Stops isBlank (skipBlanks s) := stops_dropWhile isBlank s

theorem skipBlanks_eq_iff : skipBlanks s = t ↔ ∃ w, AllBlank w ∧ s = w ++ t ∧ Stops isBlank t := by
  constructor
  · rintro rfl
    have hw : AllBlank (s.takeWhile isBlank) := List.all_eq_true.1 List.all_takeWhile
    exact ⟨_, hw, List.takeWhile_append_dropWhile.symm, stops_skipBlanks s⟩
  · rintro ⟨w, hw, rfl, ht⟩
    exact dropWhile_append_of_stops hw ht

/-- What follows a keyword that blanks may stand before. -/
theorem after?_skipBlanks_eq_some_iff (hw : Stops isBlank (w ++ t)) :
    after? w (skipBlanks s) = some t ↔ ∃ indent, AllBlank indent ∧ s = indent ++ (w ++ t) := by
  rw [after?_eq_some_iff, skipBlanks_eq_iff]
  constructor
  · rintro ⟨indent, hindent, rfl, _⟩
    exact ⟨indent, hindent, rfl⟩
  · rintro ⟨indent, hindent, rfl⟩
    exact ⟨indent, hindent, rfl, hw⟩

theorem skipBlanks?_eq_some_iff : skipBlanks? s = some t ↔
    ∃ w, w ≠ [] ∧ AllBlank w ∧ s = w ++ t ∧ Stops isBlank t := by
  cases s with
  | nil =>
    apply iff_of_false nofun
    rintro ⟨w, hne, _, he, _⟩
    exact hne (List.append_eq_nil_iff.1 he.symm).1
  | cons c s =>
    simp only [skipBlanks?, Option.ite_none_right_eq_some, Option.some.injEq, skipBlanks_eq_iff]
    constructor
    · rintro ⟨hc, w, hw, rfl, ht⟩
      exact ⟨c :: w, List.cons_ne_nil c w, List.forall_mem_cons.2 ⟨hc, hw⟩, rfl, ht⟩
    · rintro ⟨w, hne, hw, he, ht⟩
      cases w with
      | nil => exact absurd rfl hne
      | cons d w =>
        obtain ⟨rfl, rfl⟩ := List.cons.inj he
        obtain ⟨hc, hw⟩ := List.forall_mem_cons.1 hw
        exact ⟨hc, w, hw, rfl, ht⟩

theorem word?_eq_some_iff : word? s = some (w, t) ↔ s = w ++ t ∧ IsWordRun w ∧ Stops isWord t := by
  constructor
  · intro h
    obtain ⟨hs, hne, hw⟩ := word?_eq_some h
    refine ⟨hs, ⟨hne, hw⟩, ?_⟩
    rw [word?] at h
    split at h
    · cases h
    · cases h
      exact stops_dropWhile isWord s
  · rintro ⟨rfl, hw, ht⟩
    have hne := hw.ne_nil
    rw [word?, takeWhile_append_of_stops hw.word ht, dropWhile_append_of_stops hw.word ht]
    cases w with
    | nil => exact absurd rfl hne
    | cons c w => rfl

/-- The next word, with blanks before it. -/
theorem nextWord?_eq_some_iff : (skipBlanks? s).bind word? = some (w, t) ↔
    ∃ blanks, blanks ≠ [] ∧ AllBlank blanks ∧ IsWordRun w ∧ Stops isWord t ∧
      s = blanks ++ (w ++ t) := by
  rw [Option.bind_eq_some_iff]
  constructor
  · rintro ⟨rest, hskip, hword⟩
    obtain ⟨rfl, hrun, ht⟩ := word?_eq_some_iff.1 hword
    obtain ⟨blanks, hne, hblank, rfl, _⟩ := skipBlanks?_eq_some_iff.1 hskip
    exact ⟨blanks, hne, hblank, hrun, ht, rfl⟩
  · rintro ⟨blanks, hne, hblank, hrun, ht, rfl⟩
    refine ⟨w ++ t, ?_, word?_eq_some_iff.2 ⟨rfl, hrun, ht⟩⟩
    exact skipBlanks?_eq_some_iff.2 ⟨blanks, hne, hblank, rfl, hrun.stops_isBlank t⟩

theorem mem_of_mem_trimRight (h : c ∈ trimRight s) : c ∈ s := by
  rw [trimRight, List.mem_reverse] at h
  exact List.mem_reverse.1 ((List.dropWhile_sublist isBlank).mem h)

theorem mem_of_mem_trim (h : c ∈ trim s) : c ∈ s :=
  (List.dropWhile_sublist isBlank).mem (mem_of_mem_trimRight h)

end GuidAudit
