import GuidAudit.Proofs.Json.Grammar

namespace GuidAudit.Json

/-- The next character, if there is one, is no digit. -/
def NoDigit (r : List Char) : Prop := ∀ c ∈ r.head?, c.isDigit = false

/-- The next character, if there is one, cannot belong to a number. -/
def Ends (r : List Char) : Prop :=
  ∀ c ∈ r.head?, c.isDigit = false ∧ c ≠ '.' ∧ c ≠ 'e' ∧ c ≠ 'E'

inductive Spelled : List Char → Token → Prop
  | openArray : Spelled ['['] .openArray
  | closeArray : Spelled [']'] .closeArray
  | openObject : Spelled ['{'] .openObject
  | closeObject : Spelled ['}'] .closeObject
  | comma : Spelled [','] .comma
  | colon : Spelled [':'] .colon
  | null : Spelled "null".toList .null
  | boolTrue : Spelled "true".toList (.bool true)
  | boolFalse : Spelled "false".toList (.bool false)
  | number {s : List Char} {c e : Int} : IsNumber s c e → Spelled s (.number c e)
  | string {s : List Char} {text : UnitText} : IsString s text → Spelled s (.string text)

variable {s r ds f x : List Char} {c e : Int} {t : Token}

theorem digits?_eq_some_iff :
    digits? s = some (ds, r) ↔ s = ds ++ r ∧ IsDigits ds ∧ NoDigit r := by
  constructor
  · intro h
    unfold digits? at h
    split at h
    · cases h
    · rename_i hne
      cases h
      refine ⟨List.takeWhile_append_dropWhile.symm, ⟨hne, ?_⟩, ?_⟩
      · exact List.all_eq_true.1 List.all_takeWhile
      · intro c hc
        have hd := List.head?_dropWhile_not Char.isDigit s
        rw [Option.mem_def.1 hc] at hd
        simpa using hd
  · intro h
    obtain ⟨rfl, ⟨hne, hds⟩, hr⟩ := h
    have htake : (ds ++ r).takeWhile Char.isDigit = ds := by
      rw [List.takeWhile_append_of_pos hds]
      cases r with
      | nil => simp
      | cons c r => simp [hr c rfl]
    have hdrop : (ds ++ r).dropWhile Char.isDigit = r := by
      rw [List.dropWhile_append_of_pos hds]
      cases r with
      | nil => rfl
      | cons c r => simp [hr c rfl]
    cases ds with
    | nil => exact absurd rfl hne
    | cons d ds => simp only [digits?, htake, hdrop]

theorem NoDigit.cons {d : Char} (h : d.isDigit = false) (r : List Char) : NoDigit (d :: r) := by
  intro c hc
  obtain rfl := Option.some.inj hc
  exact h

theorem Ends.noDigit (h : Ends r) : NoDigit r := fun c hc => (h c hc).1

theorem IsDigits.exists_cons (h : IsDigits ds) :
    ∃ d ds', ds = d :: ds' ∧ d.isDigit = true := by
  cases ds with
  | nil => exact absurd rfl h.1
  | cons d ds => exact ⟨d, ds, rfl, h.2 d List.mem_cons_self⟩

theorem wholeDigits?_sound (h : wholeDigits? s = some (ds, r)) : s = ds ++ r ∧ IsWhole ds := by
  unfold wholeDigits? at h
  split at h
  · cases h
    exact ⟨rfl, .inl rfl⟩
  · rename_i hzero
    obtain ⟨rfl, hds, _⟩ := digits?_eq_some_iff.1 h
    refine ⟨rfl, .inr ⟨hds, fun hd => ?_⟩⟩
    obtain ⟨rest, rfl⟩ := List.head?_eq_some_iff.1 hd
    exact hzero _ rfl

theorem wholeDigits?_complete (h : IsWhole ds) (hr : NoDigit r) :
    wholeDigits? (ds ++ r) = some (ds, r) := by
  rcases h with rfl | ⟨hds, hzero⟩
  · rfl
  · unfold wholeDigits?
    split
    · rename_i he
      obtain ⟨d, ds, rfl, _⟩ := hds.exists_cons
      cases he
      exact absurd rfl hzero
    · exact digits?_eq_some_iff.2 ⟨rfl, hds, hr⟩

theorem fractionDigits?_sound (h : fractionDigits? s = some (ds, r)) :
    ∃ f, s = f ++ r ∧ IsFraction f ds := by
  unfold fractionDigits? at h
  split at h
  · obtain ⟨rfl, hds, _⟩ := digits?_eq_some_iff.1 h
    exact ⟨_, rfl, .inr ⟨rfl, hds⟩⟩
  · cases h
    exact ⟨[], rfl, .inl ⟨rfl, rfl⟩⟩

theorem fractionDigits?_complete (h : IsFraction f ds) (hr : NoDigit r)
    (hpoint : r.head? ≠ some '.') : fractionDigits? (f ++ r) = some (ds, r) := by
  rcases h with ⟨rfl, rfl⟩ | ⟨rfl, hds⟩
  · unfold fractionDigits?
    split
    · rename_i he
      rw [List.nil_append] at he
      exact absurd (congrArg List.head? he) hpoint
    · rfl
  · exact digits?_eq_some_iff.2 ⟨rfl, hds, hr⟩

theorem signedDigits?_sound {mark : Char} (hm : mark = 'e' ∨ mark = 'E')
    (h : signedDigits? s = some (e, r)) : ∃ x, s = x ++ r ∧ IsExponent (mark :: x) e := by
  unfold signedDigits? at h
  split at h
  all_goals
    obtain ⟨⟨ds, r⟩, hds, h⟩ := Option.map_eq_some_iff.1 h
    cases h
    obtain ⟨rfl, hds, _⟩ := digits?_eq_some_iff.1 hds
  · exact ⟨_, rfl, .minus hm hds⟩
  · exact ⟨_, rfl, .plus hm hds⟩
  · exact ⟨_, rfl, .unsigned hm hds⟩

theorem exponent?_sound (h : exponent? s = some (e, r)) : ∃ x, s = x ++ r ∧ IsExponent x e := by
  unfold exponent? at h
  split at h
  · obtain ⟨x, rfl, hx⟩ := signedDigits?_sound (.inl rfl) h
    exact ⟨_, rfl, hx⟩
  · obtain ⟨x, rfl, hx⟩ := signedDigits?_sound (.inr rfl) h
    exact ⟨_, rfl, hx⟩
  · cases h
    exact ⟨[], rfl, .absent⟩

theorem exponent?_mark {mark : Char} (h : mark = 'e' ∨ mark = 'E') (s : List Char) :
    exponent? (mark :: s) = signedDigits? s := by
  rcases h with rfl | rfl <;> rfl

theorem signedDigits?_unsigned (h : IsDigits ds) (hr : NoDigit r) :
    signedDigits? (ds ++ r) = some ((ofDigits ds : Int), r) := by
  have hds := digits?_eq_some_iff.2 ⟨rfl, h, hr⟩
  obtain ⟨d, ds, rfl, hd⟩ := h.exists_cons
  unfold signedDigits?
  split
  · rename_i he
    cases he
    cases hd
  · rename_i he
    cases he
    cases hd
  · rw [hds]
    rfl

theorem exponent?_complete (h : IsExponent x e) (hr : Ends r) :
    exponent? (x ++ r) = some (e, r) := by
  cases h with
  | absent =>
    rw [List.nil_append]
    unfold exponent?
    split
    · exact absurd rfl (hr 'e' rfl).2.2.1
    · exact absurd rfl (hr 'E' rfl).2.2.2
    · rfl
  | unsigned hm hds =>
    rw [List.cons_append, exponent?_mark hm]
    exact signedDigits?_unsigned hds hr.noDigit
  | plus hm hds =>
    rw [List.cons_append, exponent?_mark hm, List.cons_append]
    exact Option.map_eq_some_iff.2 ⟨_, digits?_eq_some_iff.2 ⟨rfl, hds, hr.noDigit⟩, rfl⟩
  | minus hm hds =>
    rw [List.cons_append, exponent?_mark hm, List.cons_append]
    exact Option.map_eq_some_iff.2 ⟨_, digits?_eq_some_iff.2 ⟨rfl, hds, hr.noDigit⟩, rfl⟩

theorem unsignedNumber?_sound (h : unsignedNumber? s = some (c, e, r)) :
    ∃ x, s = x ++ r ∧ IsUnsigned x c e := by
  simp only [unsignedNumber?, Option.bind_eq_bind, Option.bind_eq_some_iff] at h
  obtain ⟨⟨whole, s₁⟩, hw, ⟨ds, s₂⟩, hf, ⟨exponent, s₃⟩, hx, h⟩ := h
  cases h
  obtain ⟨rfl, hwhole⟩ := wholeDigits?_sound hw
  obtain ⟨f, rfl, hfraction⟩ := fractionDigits?_sound hf
  obtain ⟨x, rfl, hexponent⟩ := exponent?_sound hx
  refine ⟨whole ++ (f ++ x), ?_, .mk hwhole hfraction hexponent⟩
  simp only [List.append_assoc]

/-- Neither a digit nor a point stands where the exponent may. -/
theorem IsExponent.head?_append (h : IsExponent x e) (hr : Ends r) :
    NoDigit (x ++ r) ∧ (x ++ r).head? ≠ some '.' := by
  have hmark {mark : Char} (hm : mark = 'e' ∨ mark = 'E') (s : List Char) :
      NoDigit (mark :: s) ∧ (mark :: s).head? ≠ some '.' := by
    rcases hm with rfl | rfl
    · exact ⟨.cons rfl s, by simp⟩
    · exact ⟨.cons rfl s, by simp⟩
  cases h with
  | absent => exact ⟨hr.noDigit, fun h => (hr '.' h).2.1 rfl⟩
  | unsigned hm _ => exact hmark hm _
  | plus hm _ => exact hmark hm _
  | minus hm _ => exact hmark hm _

theorem IsFraction.noDigit_append (h : IsFraction f ds) (hr : NoDigit r) : NoDigit (f ++ r) := by
  rcases h with ⟨rfl, _⟩ | ⟨rfl, _⟩
  · exact hr
  · exact .cons rfl _

theorem unsignedNumber?_complete (h : IsUnsigned x c e) (hr : Ends r) :
    unsignedNumber? (x ++ r) = some (c, e, r) := by
  obtain ⟨hw, hf, hx⟩ := h
  obtain ⟨hdigit, hpoint⟩ := hx.head?_append hr
  simp only [unsignedNumber?, List.append_assoc, Option.bind_eq_bind,
    wholeDigits?_complete hw (hf.noDigit_append hdigit), fractionDigits?_complete hf hdigit hpoint,
    exponent?_complete hx hr, Option.bind_some]

theorem number?_sound (h : number? s = some (t, r)) : ∃ x, s = x ++ r ∧ Spelled x t := by
  unfold number? at h
  split at h
  all_goals
    obtain ⟨⟨c, e, r⟩, hn, h⟩ := Option.map_eq_some_iff.1 h
    cases h
    obtain ⟨x, rfl, hx⟩ := unsignedNumber?_sound hn
  · exact ⟨_, rfl, .number (.negative hx)⟩
  · exact ⟨_, rfl, .number (.positive hx)⟩

theorem IsUnsigned.exists_cons (h : IsUnsigned x c e) :
    ∃ d x', x = d :: x' ∧ d.isDigit = true := by
  obtain ⟨hw, _, _⟩ := h
  rcases hw with rfl | ⟨hds, _⟩
  · exact ⟨'0', _, rfl, rfl⟩
  · obtain ⟨d, ds, rfl, hd⟩ := hds.exists_cons
    exact ⟨d, _, rfl, hd⟩

theorem number?_complete (h : IsNumber x c e) (hr : Ends r) :
    number? (x ++ r) = some (.number c e, r) := by
  cases h with
  | positive h =>
    have hn := unsignedNumber?_complete h hr
    obtain ⟨d, x, rfl, hd⟩ := h.exists_cons
    unfold number?
    split
    · rename_i he
      cases he
      cases hd
    · rw [hn]
      rfl
  | negative h =>
    rw [List.cons_append, number?, unsignedNumber?_complete h hr]
    rfl

theorem escaped?_eq_some_iff {letter d : Char} :
    escaped? letter = some d ↔ (letter, d) ∈ escapes := by
  unfold escaped?
  split
  all_goals simp_all [escapes, eq_comm]

theorem stringUnits?_sound {u : List UInt16} (h : stringUnits? s = some (u, r)) :
    ∃ body, s = body ++ '"' :: r ∧ IsBody body u := by
  fun_induction stringUnits? s generalizing u with
  | case1 => cases h
  | case2 s =>
    cases h
    exact ⟨[], rfl, .nil⟩
  | case3 a b c d s ih =>
    simp only [Option.bind_eq_bind, Option.bind_eq_some_iff] at h
    obtain ⟨n, hn, ⟨v, t⟩, hv, h⟩ := h
    cases h
    obtain ⟨body, rfl, hb⟩ := ih hv
    exact ⟨_, rfl, .unit hn hb⟩
  | case4 letter s _ ih =>
    simp only [Option.bind_eq_bind, Option.bind_eq_some_iff] at h
    obtain ⟨d, hd, ⟨v, t⟩, hv, h⟩ := h
    cases h
    obtain ⟨body, rfl, hb⟩ := ih hv
    exact ⟨_, rfl, .escape (escaped?_eq_some_iff.1 hd) hb⟩
  | case5 => cases h
  | case6 d s hquote hunit hescape hd ih =>
    simp only [Option.bind_eq_bind, Option.bind_eq_some_iff] at h
    obtain ⟨⟨v, t⟩, hv, h⟩ := h
    cases h
    obtain ⟨body, rfl, hb⟩ := ih hv
    have hslash : d ≠ '\\' := by
      intro he
      cases body with
      | nil => exact hescape _ _ he rfl
      | cons => exact hescape _ _ he rfl
    exact ⟨_, rfl, .plain hquote hslash (Char.not_lt.1 hd) hb⟩

theorem stringUnits?_complete {u : List UInt16} (h : IsBody x u) (r : List Char) :
    stringUnits? (x ++ '"' :: r) = some (u, r) := by
  induction h with
  | nil => rfl
  | plain hquote hslash hd _ ih =>
    rw [List.cons_append, stringUnits?, ih, if_neg (Char.not_lt.2 hd)]
    · rfl
    · exact hquote
    · intro _ _ _ _ _ he
      exact absurd he hslash
    · intro _ _ he
      exact absurd he hslash
  | escape he _ ih =>
    rw [List.cons_append, List.cons_append, stringUnits?, ih, escaped?_eq_some_iff.2 he]
    · rfl
    · rintro _ _ _ _ _ rfl
      exact absurd (escaped?_eq_some_iff.2 he) nofun
  | unit hn _ ih =>
    simp only [List.cons_append, stringUnits?, hn, ih, Option.bind_eq_bind, Option.bind_some]

theorem token?_string {text : UnitText} (h : IsString x text) (r : List Char) :
    token? (x ++ r) = some (.string text, r) := by
  obtain ⟨hb⟩ := h
  rw [List.cons_append, List.append_assoc, List.singleton_append, token?,
    stringUnits?_complete hb]
  rfl

theorem token?_number (h : IsNumber x c e) (hr : Ends r) :
    token? (x ++ r) = some (.number c e, r) := by
  have hn := number?_complete h hr
  obtain ⟨d, x, rfl, hd⟩ : ∃ d x', x = d :: x' ∧ (d.isDigit = true ∨ d = '-') := by
    cases h with
    | positive h =>
      obtain ⟨d, x, rfl, hd⟩ := h.exists_cons
      exact ⟨d, x, rfl, .inl hd⟩
    | negative h => exact ⟨_, _, rfl, .inr rfl⟩
  rw [List.cons_append] at hn ⊢
  unfold token?
  split
  case h_11 => exact hn
  all_goals
    rename_i he
    cases he
    exact absurd hd (by decide)

theorem token?_sound (h : token? s = some (t, r)) : ∃ x, s = x ++ r ∧ Spelled x t := by
  unfold token? at h
  split at h
  case h_1 => cases h; exact ⟨_, rfl, .openArray⟩
  case h_2 => cases h; exact ⟨_, rfl, .closeArray⟩
  case h_3 => cases h; exact ⟨_, rfl, .openObject⟩
  case h_4 => cases h; exact ⟨_, rfl, .closeObject⟩
  case h_5 => cases h; exact ⟨_, rfl, .comma⟩
  case h_6 => cases h; exact ⟨_, rfl, .colon⟩
  case h_10 =>
    obtain ⟨⟨u, r⟩, hu, h⟩ := Option.map_eq_some_iff.1 h
    cases h
    obtain ⟨body, rfl, hb⟩ := stringUnits?_sound hu
    exact ⟨'"' :: (body ++ ['"']), by simp, .string (.mk hb)⟩
  case h_11 => exact number?_sound h
  all_goals
    obtain ⟨r, hr, h⟩ := Option.map_eq_some_iff.1 h
    cases h
    obtain rfl := after?_eq_some_iff.1 hr
  · exact ⟨_, rfl, .null⟩
  · exact ⟨_, rfl, .boolTrue⟩
  · exact ⟨_, rfl, .boolFalse⟩

theorem isGap_eq_false_of_token? {d : Char} (h : token? (d :: s) = some (t, r)) :
    isGap d = false := by
  cases hd : isGap d with
  | false => rfl
  | true =>
    simp only [isGap, Bool.or_eq_true, beq_iff_eq, or_assoc] at hd
    rcases hd with rfl | rfl | rfl | rfl
    all_goals cases h

theorem tokens?_of_token? (h : token? s = some (t, r)) : tokens? s = (tokens? r).map (t :: ·) := by
  cases s with
  | nil => cases h
  | cons d s =>
    rw [tokens?, if_neg (by simp [isGap_eq_false_of_token? h])]
    split
    · rename_i he
      rw [h] at he
      cases he
    · rename_i he
      rw [h] at he
      cases he
      rfl

theorem tokens?_gap {g : List Char} (h : Gap g) (s : List Char) : tokens? (g ++ s) = tokens? s := by
  induction g with
  | nil => rfl
  | cons d g ih =>
    obtain ⟨hd, hg⟩ := h.of_cons
    rw [List.cons_append, tokens?, if_pos hd, ih hg]

end GuidAudit.Json
