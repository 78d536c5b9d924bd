import GuidAudit.Proofs.Owner
import GuidAudit.Proofs.Padding
import GuidAudit.Proofs.Run

namespace GuidAudit

variable {s t line name second after : List Char} {ls ls' : List Line} {k : Int}

/-- Nothing, or the struct specifier with its arguments and the blanks behind it. -/
def IsSpecifier (s : List Char) : Prop :=
  s = [] ∨ ∃ margin arguments tail, AllBlank margin ∧ ')' ∉ arguments ∧ AllBlank tail ∧
    s = "USTRUCT".toList ++ margin ++ '(' :: arguments ++ ')' :: tail

/-- A struct header in its parts, up to where the names begin. -/
structure StructHeader where
  indent : List Char
  specifier : List Char
  gap : List Char
  rest : List Char
  indent_blank : AllBlank indent
  specifier_valid : IsSpecifier specifier
  gap_ne_nil : gap ≠ []
  gap_blank : AllBlank gap
  rest_word : ∃ c ∈ rest.head?, isWord c = true

namespace StructHeader

variable (h : StructHeader)

def chars : List Char := h.indent ++ h.specifier ++ "struct".toList ++ h.gap ++ h.rest

def first : List Char := h.rest.takeWhile isWord

/-- The first word is an export macro, and another word follows it. -/
def Exports (second : List Char) : Prop :=
  (∃ stem, stem ≠ [] ∧ (∀ c ∈ stem, c.isUpper = true ∨ c.isDigit = true ∨ c = '_') ∧
    h.first = stem ++ "_API".toList) ∧
  ∃ blanks after, blanks ≠ [] ∧ AllBlank blanks ∧ IsWordRun second ∧ Stops isWord after ∧
    h.rest = h.first ++ (blanks ++ (second ++ after))

/-- The first word is the name, unless it is an export macro before another one. -/
def Names (name : List Char) : Prop :=
  h.Exports name ∨ name = h.first ∧ ∀ second, ¬ h.Exports second

end StructHeader

theorem isExportMacro_iff : isExportMacro s = true ↔
    ∃ stem, stem ≠ [] ∧ (∀ c ∈ stem, c.isUpper = true ∨ c.isDigit = true ∨ c = '_') ∧
      s = stem ++ "_API".toList := by
  constructor
  · intro h
    rw [isExportMacro] at h
    split at h
    · cases h
    · cases h
    · rename_i stem hne hstem
      refine ⟨stem, hne, fun c hc => ?_, before?_eq_some_iff.1 hstem⟩
      simpa [or_assoc] using List.all_eq_true.1 h c hc
  · rintro ⟨stem, hne, hall, rfl⟩
    have hstem : before? "_API".toList (stem ++ "_API".toList) = some stem :=
      before?_eq_some_iff.2 rfl
    rw [isExportMacro, hstem]
    cases stem with
    | nil => exact absurd rfl hne
    | cons c stem =>
      apply List.all_eq_true.2
      intro d hd
      simpa [or_assoc] using hall d hd

theorem exists_of_dropWhile_ne {c d : Char} (h : s.dropWhile (· ≠ d) = c :: t) :
    ∃ front, d ∉ front ∧ s = front ++ d :: t := by
  have hs : d ∈ s := by
    apply Decidable.byContradiction
    intro hs
    rw [dropWhile_ne_eq_nil hs] at h
    cases h
  obtain ⟨front, rest, rfl, hfront⟩ := List.eq_append_cons_of_mem hs
  rw [dropWhile_ne_append_cons hfront] at h
  obtain ⟨_, rfl⟩ := List.cons.inj h
  exact ⟨front, hfront, rfl⟩

theorem skipStructSpecifier?_sound (h : skipStructSpecifier? s = some t) :
    ∃ specifier, IsSpecifier specifier ∧ s = specifier ++ t := by
  rw [skipStructSpecifier?] at h
  split at h
  · cases h
    exact ⟨[], .inl rfl, rfl⟩
  rename_i s₁ hkeyword
  split at h
  · rename_i s₂ hopen
    split at h
    · rename_i c s₃ hclose
      cases h
      obtain ⟨arguments, harguments, rfl⟩ := exists_of_dropWhile_ne hclose
      obtain ⟨margin, hmargin, rfl, _⟩ := skipBlanks_eq_iff.1 hopen
      obtain ⟨tail, htail, he, _⟩ := skipBlanks_eq_iff.1 (rfl : skipBlanks s₃ = skipBlanks s₃)
      refine ⟨_, .inr ⟨margin, arguments, tail, hmargin, harguments, htail, rfl⟩, ?_⟩
      rw [after?_eq_some_iff.1 hkeyword]
      simpa using he
    · cases h
  · cases h

/-- The keyword does not begin like the specifier, so that only the one before it is skipped. -/
theorem skipStructSpecifier?_complete (h : IsSpecifier s) :
    skipStructSpecifier? (s ++ ("struct".toList ++ t)) = some ("struct".toList ++ t) := by
  rcases h with rfl | ⟨margin, arguments, tail, hmargin, harguments, htail, rfl⟩
  · rfl
  · have hkeyword : after? "USTRUCT".toList ("USTRUCT".toList ++ margin ++ '(' :: arguments ++
        ')' :: tail ++ ("struct".toList ++ t)) =
        some (margin ++ '(' :: (arguments ++ ')' :: (tail ++ ("struct".toList ++ t)))) :=
      after?_eq_some_iff.2 (by simp)
    have hopen : skipBlanks
        (margin ++ '(' :: (arguments ++ ')' :: (tail ++ ("struct".toList ++ t)))) =
        '(' :: (arguments ++ ')' :: (tail ++ ("struct".toList ++ t))) :=
      skipBlanks_eq_iff.2 ⟨margin, hmargin, rfl, Stops.cons (by decide) _⟩
    have hblank : skipBlanks (tail ++ ("struct".toList ++ t)) = "struct".toList ++ t :=
      skipBlanks_eq_iff.2 ⟨tail, htail, rfl, Stops.cons (by decide) _⟩
    simp only [skipStructSpecifier?, hkeyword, hopen, dropWhile_ne_append_cons harguments, hblank]

namespace StructHeader

variable (h : StructHeader)

theorem word?_rest : word? h.rest = some (h.first, h.rest.dropWhile isWord) := by
  have hne : h.first ≠ [] := by
    obtain ⟨c, hc, hword⟩ := h.rest_word
    obtain ⟨rest, hrest⟩ := List.head?_eq_some_iff.1 hc
    rw [first, hrest, List.takeWhile_cons_of_pos hword]
    exact List.cons_ne_nil _ _
  refine word?_eq_some_iff.2 ⟨List.takeWhile_append_dropWhile.symm, ⟨hne, ?_⟩, stops_dropWhile _ _⟩
  exact List.all_eq_true.1 List.all_takeWhile

theorem exports_iff : h.Exports second ↔ isExportMacro h.first = true ∧
    ∃ after, (skipBlanks? (h.rest.dropWhile isWord)).bind word? = some (second, after) := by
  have hrest {t : List Char} : h.rest = h.first ++ t ↔ h.rest.dropWhile isWord = t := by
    conv => lhs; lhs; rw [← List.takeWhile_append_dropWhile (p := isWord) (l := h.rest)]
    exact List.append_right_inj h.first
  simp only [Exports, isExportMacro_iff, nextWord?_eq_some_iff, hrest]
  exact and_congr_right fun _ => exists_comm

theorem declaredName?_rest : declaredName? h.rest = some name ↔ h.Names name := by
  simp only [declaredName?, h.word?_rest, Option.bind_eq_bind, Option.bind_some, Names, exports_iff]
  by_cases hexport : isExportMacro h.first = true
  · cases hnext : (skipBlanks? (h.rest.dropWhile isWord)).bind word? with
    | none => simp [hexport, eq_comm]
    | some found =>
      obtain ⟨second, after⟩ := found
      simp [hexport]
  · simp [hexport, eq_comm]

theorem exists_names : ∃ name, h.Names name := by
  by_cases hexports : ∃ second, h.Exports second
  · obtain ⟨second, hsecond⟩ := hexports
    exact ⟨second, .inl hsecond⟩
  · exact ⟨h.first, .inr ⟨rfl, not_exists.1 hexports⟩⟩

theorem structName?_chars : structName? h.chars = declaredName? h.rest := by
  have hstops : Stops isBlank (h.specifier ++ ("struct".toList ++ (h.gap ++ h.rest))) := by
    rcases h.specifier_valid with hs | ⟨margin, arguments, tail, _, _, _, hs⟩
    · rw [hs]
      exact Stops.cons (by decide) _
    · rw [hs]
      exact Stops.cons (by decide) _
  have hindent : skipBlanks h.chars = h.specifier ++ ("struct".toList ++ (h.gap ++ h.rest)) :=
    skipBlanks_eq_iff.2 ⟨h.indent, h.indent_blank, by simp only [chars, List.append_assoc], hstops⟩
  have hrest : Stops isBlank h.rest := by
    intro c hc
    obtain ⟨d, hd, hword⟩ := h.rest_word
    obtain rfl : d = c := Option.some.inj (hd.symm.trans hc)
    exact isBlank_eq_false_of_isWord hword
  have hgap : skipBlanks? (h.gap ++ h.rest) = some h.rest :=
    skipBlanks?_eq_some_iff.2 ⟨h.gap, h.gap_ne_nil, h.gap_blank, rfl, hrest⟩
  simp only [structName?, hindent, skipStructSpecifier?_complete h.specifier_valid, after?_append,
    Option.bind_eq_bind, Option.bind_some, hgap]

end StructHeader

theorem exists_structHeader (h : structName? line = some name) :
    ∃ header : StructHeader, header.chars = line := by
  obtain ⟨s₁, hspecifier, h⟩ := Option.bind_eq_some_iff.1 h
  obtain ⟨s₂, hkeyword, h⟩ := Option.bind_eq_some_iff.1 h
  obtain ⟨rest, hskip, h⟩ := Option.bind_eq_some_iff.1 h
  obtain ⟨⟨first, behind⟩, hfirst, _⟩ := Option.bind_eq_some_iff.1 h
  obtain ⟨gap, hne, hgap, rfl, _⟩ := skipBlanks?_eq_some_iff.1 hskip
  obtain ⟨specifier, hvalid, hs⟩ := skipStructSpecifier?_sound hspecifier
  obtain ⟨indent, hindent, rfl, _⟩ := skipBlanks_eq_iff.1 hs
  have hword : ∃ c ∈ rest.head?, isWord c = true := by
    obtain ⟨rfl, hrun, _⟩ := word?_eq_some_iff.1 hfirst
    cases first with
    | nil => exact absurd rfl hrun.ne_nil
    | cons c first => exact ⟨c, rfl, hrun.word c List.mem_cons_self⟩
  refine ⟨⟨indent, specifier, gap, rest, hindent, hvalid, hne, hgap, hword⟩, ?_⟩
  rw [after?_eq_some_iff.1 hkeyword]
  simp only [StructHeader.chars, List.append_assoc]

theorem StructHeader.structName?_eq_some_iff (h : StructHeader) :
    structName? h.chars = some name ↔ h.Names name := by
  rw [h.structName?_chars, h.declaredName?_rest]

theorem structName?_isSome_iff :
    (structName? line).isSome = true ↔ ∃ header : StructHeader, header.chars = line := by
  constructor
  · intro h
    obtain ⟨name, hname⟩ := Option.isSome_iff_exists.1 h
    exact exists_structHeader hname
  · rintro ⟨header, rfl⟩
    obtain ⟨name, hname⟩ := header.exists_names
    rw [header.structName?_eq_some_iff.2 hname]
    rfl

theorem structNameAt?_eq_none_iff {i : Nat} :
    structNameAt? ls i = none ↔ ¬ ∃ header : StructHeader, ls[i]? = some header.chars := by
  rw [structNameAt?, Option.bind_eq_none_iff]
  constructor
  · rintro h ⟨header, hline⟩
    have hsome : (structName? header.chars).isSome = true := structName?_isSome_iff.2 ⟨header, rfl⟩
    rw [h _ hline] at hsome
    cases hsome
  · intro h line hline
    apply Option.not_isSome_iff_eq_none.1
    intro hsome
    obtain ⟨header, rfl⟩ := structName?_isSome_iff.1 hsome
    exact h ⟨header, hline⟩

theorem ownerAt_toNat (ls : List Line) (k : Int) : ownerAt ls k = ownerAt ls (k.toNat : Int) := by
  rw [ownerAt, ownerAt, Int.toNat_natCast]

theorem ownerAt_congr (h : ∀ i : Nat, (i : Int) < k → ls[i]? = ls'[i]?) :
    ownerAt ls k = ownerAt ls' k := by
  have htake : ls.take k.toNat = ls'.take k.toNat := by
    apply List.ext_getElem?
    intro i
    by_cases hi : i < k.toNat
    · rw [List.getElem?_take_of_lt hi, List.getElem?_take_of_lt hi]
      exact h i (by omega)
    · rw [List.getElem?_eq_none (by simp; omega), List.getElem?_eq_none (by simp; omega)]
  rw [ownerAt, ownerAt, htake]

/-- The owner of a line is named by the last struct header above it, whatever stands further down.
A struct header is what its grammar says, and so is the name that it declares. -/
theorem owner_named_by_nearest_header (ls : List Line) (k : Int) :
    ((∃ (i : Nat) (header : StructHeader) (name : List Char), (i : Int) < min k ls.length ∧
        ls[i]? = some header.chars ∧ header.Names name ∧ ownerAt ls k = String.ofList name ∧
        ∀ j : Nat, i < j → (j : Int) < min k ls.length →
          ¬ ∃ header : StructHeader, ls[j]? = some header.chars) ∨
      (ownerAt ls k = "UnknownStruct" ∧
        ∀ j : Nat, (j : Int) < min k ls.length →
          ¬ ∃ header : StructHeader, ls[j]? = some header.chars)) ∧
    (∀ ls' : List Line, (∀ i : Nat, (i : Int) < k → ls[i]? = ls'[i]?) →
      ownerAt ls k = ownerAt ls' k) ∧
    (∀ line, (structName? line).isSome = true ↔ ∃ header : StructHeader, header.chars = line) ∧
    ∀ (header : StructHeader) (name : List Char),
      structName? header.chars = some name ↔ header.Names name := by
  have hbelow {j : Nat} (hj : (j : Int) < min k ls.length) : j < k.toNat := by omega
  refine ⟨?_, fun ls' => ownerAt_congr, fun line => structName?_isSome_iff,
    fun header name => header.structName?_eq_some_iff⟩
  rw [ownerAt_toNat]
  rcases ownedBy_ownerAt ls k.toNat with ⟨i, name, hi, hname, howner, hafter⟩ | ⟨howner, hnone⟩
  · obtain ⟨line, hline, hname⟩ := Option.bind_eq_some_iff.1 hname
    obtain ⟨header, rfl⟩ := exists_structHeader hname
    have hlength := (List.getElem?_eq_some_iff.1 hline).1
    refine .inl ⟨i, header, name, by omega, hline, header.structName?_eq_some_iff.1 hname, howner,
      fun j hij hj => ?_⟩
    exact structNameAt?_eq_none_iff.1 (hafter j hij (hbelow hj))
  · exact .inr ⟨howner, fun j hj => structNameAt?_eq_none_iff.1 (hnone j (hbelow hj))⟩

example : structName? "USTRUCT() struct CORE_API FItem final".toList = some "FItem".toList := by
  decide

example : structName? "struct CORE_API".toList = some "CORE_API".toList := by decide

end GuidAudit
