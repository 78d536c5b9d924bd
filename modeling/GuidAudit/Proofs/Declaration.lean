import GuidAudit.Proofs.Detection
import GuidAudit.Proofs.Padding
import GuidAudit.Proofs.Run

namespace GuidAudit

variable {s t line name body : List Char} {initializer : Option (List Char)} {member : Member}

/-- What may follow the semicolon: blanks, and behind them a comment up to the end of the line. -/
def IsTrailer (s : List Char) : Prop :=
  AllBlank s ∨ ∃ w text, s = w ++ '/' :: '/' :: text ∧ AllBlank w ∧
    ∀ c ∈ text, c ≠ '\n' ∧ c ≠ '\r' ∧ c ≠ '\u2028' ∧ c ≠ '\u2029'

/-- The equals sign and the text behind it, where there is an initializer. -/
def assignment : Option (List Char) → List Char
  | none => []
  | some body => '=' :: body

/-- A line that declares a member, in its parts: the type, the name, the text behind an equals sign
if there is one, and what follows the semicolon. -/
structure Declaration where
  indent : List Char
  gap : List Char
  name : List Char
  margin : List Char
  body : Option (List Char)
  trailer : List Char
  indent_blank : AllBlank indent
  gap_ne_nil : gap ≠ []
  gap_blank : AllBlank gap
  name_word : IsWordRun name
  margin_blank : AllBlank margin
  body_valid : ∀ b ∈ body, b ≠ [] ∧ ';' ∉ b
  trailer_valid : IsTrailer trailer

namespace Declaration

variable (d : Declaration)

def middle : List Char := assignment d.body

/-- All that stands before the semicolon. -/
def front : List Char := d.indent ++ "FGuid".toList ++ d.gap ++ d.name ++ d.margin ++ d.middle

def chars : List Char := d.front ++ ';' :: d.trailer

end Declaration

/-- The name, and what follows it and the blanks behind it. -/
def nameAndRest? (line : List Char) : Option (List Char × List Char) :=
  (after? guidType.toList (skipBlanks line)).bind fun s =>
    ((skipBlanks? s).bind word?).map fun (name, s) => (name, skipBlanks s)

theorem Member.ofLine?_eq_bind (line : List Char) : Member.ofLine? line =
    (nameAndRest? line).bind fun (name, s) => (closing? s).bind fun (initializer, s) =>
      if isTrailer s then some { name, initializer } else none := by
  rw [Member.ofLine?, nameAndRest?]
  cases after? guidType.toList (skipBlanks line) with
  | none => rfl
  | some s =>
    simp only [Option.bind_eq_bind, Option.bind_some, ← Option.bind_assoc]
    cases (skipBlanks? s).bind word? <;> rfl

/-- Where the rest begins with neither a blank nor a word character, the name and the rest are
found just there. -/
theorem nameAndRest?_eq_some_iff (hblank : Stops isBlank t) (hword : Stops isWord t) :
    nameAndRest? line = some (name, t) ↔ ∃ indent gap margin, AllBlank indent ∧ gap ≠ [] ∧
      AllBlank gap ∧ IsWordRun name ∧ AllBlank margin ∧
      line = indent ++ "FGuid".toList ++ gap ++ name ++ margin ++ t := by
  have hkeyword {line rest : List Char} : after? guidType.toList (skipBlanks line) = some rest ↔
      ∃ indent, AllBlank indent ∧ line = indent ++ ("FGuid".toList ++ rest) :=
    after?_skipBlanks_eq_some_iff (Stops.cons (by decide) _)
  constructor
  · intro h
    obtain ⟨s, hs, h⟩ := Option.bind_eq_some_iff.1 h
    obtain ⟨⟨found, behind⟩, hfound, he⟩ := Option.map_eq_some_iff.1 h
    obtain ⟨rfl, hrest⟩ := Prod.mk.inj he
    obtain ⟨margin, hmargin, rfl, _⟩ := skipBlanks_eq_iff.1 hrest
    obtain ⟨gap, hne, hgap, hrun, _, rfl⟩ := nextWord?_eq_some_iff.1 hfound
    obtain ⟨indent, hindent, rfl⟩ := hkeyword.1 hs
    refine ⟨indent, gap, margin, hindent, hne, hgap, hrun, hmargin, ?_⟩
    simp only [List.append_assoc]
  · rintro ⟨indent, gap, margin, hindent, hne, hgap, hrun, hmargin, rfl⟩
    have hs : after? guidType.toList
        (skipBlanks (indent ++ "FGuid".toList ++ gap ++ name ++ margin ++ t)) =
        some (gap ++ (name ++ (margin ++ t))) :=
      hkeyword.2 ⟨indent, hindent, by simp only [List.append_assoc]⟩
    have hname : (skipBlanks? (gap ++ (name ++ (margin ++ t)))).bind word? =
        some (name, margin ++ t) :=
      nextWord?_eq_some_iff.2 ⟨gap, hne, hgap, hrun, hmargin.stops_isWord hword, rfl⟩
    have hrest : skipBlanks (margin ++ t) = t :=
      skipBlanks_eq_iff.2 ⟨margin, hmargin, rfl, hblank⟩
    simp only [nameAndRest?, hs, hname, hrest, Option.bind_some, Option.map_some]

theorem initializer?_eq_some_iff : initializer? s = some (body, t) ↔
    ∃ b, b ≠ [] ∧ ';' ∉ b ∧ s = b ++ ';' :: t ∧ body = initializerText b := by
  constructor
  · intro h
    have hs : ';' ∈ s := by
      apply Decidable.byContradiction
      intro hs
      rw [initializer?_eq_none hs] at h
      cases h
    obtain ⟨b, t', rfl, hb⟩ := List.eq_append_cons_of_mem hs
    rw [initializer?_of_semicolon hb] at h
    split at h
    · cases h
    · rename_i hne
      cases h
      exact ⟨b, hne, hb, rfl, rfl⟩
  · rintro ⟨b, hne, hb, rfl, rfl⟩
    rw [initializer?_of_semicolon hb, if_neg hne]

theorem closing?_eq_some_iff : closing? s = some (initializer, t) ↔
    ∃ body : Option (List Char), (∀ b ∈ body, b ≠ [] ∧ ';' ∉ b) ∧
      s = assignment body ++ ';' :: t ∧ initializer = body.map initializerText := by
  constructor
  · intro h
    rw [closing?.eq_def] at h
    split at h
    · cases h
      exact ⟨none, nofun, rfl, rfl⟩
    · obtain ⟨⟨text, t⟩, hinitializer, he⟩ := Option.map_eq_some_iff.1 h
      cases he
      obtain ⟨body, hne, hbody, rfl, rfl⟩ := initializer?_eq_some_iff.1 hinitializer
      exact ⟨some body, by rintro b ⟨⟩; exact ⟨hne, hbody⟩, rfl, rfl⟩
    · cases h
  · rintro ⟨body, hvalid, rfl, rfl⟩
    cases body with
    | none => rfl
    | some body =>
      obtain ⟨hne, hbody⟩ := hvalid body rfl
      have hread : initializer? (body ++ ';' :: t) = some (initializerText body, t) :=
        initializer?_eq_some_iff.2 ⟨body, hne, hbody, rfl, rfl⟩
      rw [assignment, List.cons_append, closing?, hread]
      rfl

theorem stops_assignment {p : Char → Bool} (hequals : p '=' = false) (hsemicolon : p ';' = false)
    (body : Option (List Char)) (t : List Char) : Stops p (assignment body ++ ';' :: t) := by
  cases body with
  | none => exact Stops.cons hsemicolon _
  | some body => exact Stops.cons hequals _

theorem isLineTerminator_eq_false_iff {c : Char} : isLineTerminator c = false ↔
    c ≠ '\n' ∧ c ≠ '\r' ∧ c ≠ '\u2028' ∧ c ≠ '\u2029' := by
  simp only [isLineTerminator, Bool.or_eq_false_iff, beq_eq_false_iff_ne, and_assoc]

theorem isTrailer_iff : isTrailer s = true ↔ IsTrailer s := by
  have hskip {w t : List Char} (hw : AllBlank w) (ht : Stops isBlank t) : skipBlanks (w ++ t) = t :=
    skipBlanks_eq_iff.2 ⟨w, hw, rfl, ht⟩
  constructor
  · intro h
    obtain ⟨w, hw, he, _⟩ := skipBlanks_eq_iff.1 (rfl : skipBlanks s = skipBlanks s)
    rw [isTrailer] at h
    split at h
    · rename_i hnil
      rw [hnil, List.append_nil] at he
      exact .inl (he ▸ hw)
    · rename_i text htext
      rw [htext] at he
      refine .inr ⟨w, text, he, hw, fun c hc => isLineTerminator_eq_false_iff.1 ?_⟩
      simpa using List.all_eq_true.1 h c hc
    · cases h
  · rintro (hs | ⟨w, text, rfl, hw, htext⟩)
    · rw [isTrailer, skipBlanks_eq_nil_of_blank hs]
    · rw [isTrailer, hskip hw (Stops.cons (by decide) _)]
      apply List.all_eq_true.2
      intro c hc
      rw [isLineTerminator_eq_false_iff.2 (htext c hc)]
      rfl

namespace Declaration

variable (d : Declaration)

theorem semicolon_not_mem_middle : ';' ∉ d.middle := by
  rw [middle]
  cases hbody : d.body with
  | none => exact List.not_mem_nil
  | some body =>
    rw [assignment, List.mem_cons, not_or]
    exact ⟨by decide, (d.body_valid body hbody).2⟩

theorem semicolon_not_mem_front : ';' ∉ d.front := by
  simp only [front, List.mem_append, not_or]
  exact ⟨⟨⟨⟨⟨d.indent_blank.not_mem (by decide), by decide⟩, d.gap_blank.not_mem (by decide)⟩,
    d.name_word.not_mem (by decide)⟩, d.margin_blank.not_mem (by decide)⟩,
    d.semicolon_not_mem_middle⟩

theorem nameAndRest?_chars :
    nameAndRest? d.chars = some (d.name, d.middle ++ ';' :: d.trailer) := by
  apply (nameAndRest?_eq_some_iff (stops_assignment (by decide) (by decide) _ _)
    (stops_assignment (by decide) (by decide) _ _)).2
  refine ⟨d.indent, d.gap, d.margin, d.indent_blank, d.gap_ne_nil, d.gap_blank, d.name_word,
    d.margin_blank, ?_⟩
  simp only [chars, front, middle, List.append_assoc]

/-- Whatever the parts of a line are, the name and the initializer are read from them. -/
theorem ofLine?_chars : Member.ofLine? d.chars =
    some { name := d.name, initializer := d.body.map initializerText } := by
  have hclosing : closing? (d.middle ++ ';' :: d.trailer) =
      some (d.body.map initializerText, d.trailer) :=
    closing?_eq_some_iff.2 ⟨d.body, d.body_valid, rfl, rfl⟩
  simp only [Member.ofLine?_eq_bind, nameAndRest?_chars, Option.bind_some, hclosing,
    isTrailer_iff.2 d.trailer_valid, ↓reduceIte]

theorem body_eq_some (h : d.middle = '=' :: body) : d.body = some body := by
  rw [middle] at h
  cases hbody : d.body with
  | none =>
    rw [hbody] at h
    cases h
  | some b =>
    rw [hbody] at h
    exact congrArg some (List.cons.inj h).2

theorem middle_eq_nil_iff : d.middle = [] ↔ d.body = none := by
  rw [middle]
  cases d.body with
  | none => exact iff_of_true rfl rfl
  | some body => exact iff_of_false nofun nofun

theorem unique {d d' : Declaration} (h : d'.chars = d.chars) :
    d'.name = d.name ∧ d'.middle = d.middle := by
  have hread := congrArg nameAndRest? h
  rw [nameAndRest?_chars, nameAndRest?_chars] at hread
  obtain ⟨hname, hrest⟩ := Prod.mk.inj (Option.some.inj hread)
  have hmiddle (d : Declaration) :
      (d.middle ++ ';' :: d.trailer).takeWhile (· ≠ ';') = d.middle := by
    have hne := decide_ne_of_not_mem d.semicolon_not_mem_middle
    exact takeWhile_append_of_stops hne (Stops.cons (by decide) _)
  refine ⟨hname, ?_⟩
  rw [← hmiddle d', hrest, hmiddle d]

end Declaration

theorem exists_declaration (h : Member.ofLine? line = some member) :
    ∃ d : Declaration, d.chars = line := by
  rw [Member.ofLine?_eq_bind] at h
  obtain ⟨⟨name, s⟩, hname, h⟩ := Option.bind_eq_some_iff.1 h
  obtain ⟨⟨initializer, trailer⟩, hclosing, h⟩ := Option.bind_eq_some_iff.1 h
  obtain ⟨htrailer, _⟩ := Option.ite_none_right_eq_some.1 h
  obtain ⟨body, hvalid, rfl, _⟩ := closing?_eq_some_iff.1 hclosing
  obtain ⟨indent, gap, margin, hindent, hne, hgap, hrun, hmargin, rfl⟩ :=
    (nameAndRest?_eq_some_iff (stops_assignment (by decide) (by decide) _ _)
      (stops_assignment (by decide) (by decide) _ _)).1 hname
  refine ⟨⟨indent, gap, name, margin, body, trailer, hindent, hne, hgap, hrun, hmargin, hvalid,
    isTrailer_iff.1 htrailer⟩, ?_⟩
  simp only [Declaration.chars, Declaration.front, Declaration.middle, List.append_assoc]

/-- The text of an initializer is what the body holds from its first character that is not blank. -/
theorem initializerText_of_solid (h : ∃ c ∈ body, isBlank c = false) :
    ∃ w, AllBlank w ∧ body = w ++ initializerText body ∧ initializerText body ≠ [] ∧
      Stops isBlank (initializerText body) := by
  obtain ⟨w, hw, he, hstops⟩ := skipBlanks_eq_iff.1 (rfl : skipBlanks body = skipBlanks body)
  have hne : skipBlanks body ≠ [] := by
    intro hnil
    obtain ⟨c, hc, hsolid⟩ := h
    rw [hnil, List.append_nil] at he
    exact hw.not_mem hsolid (he ▸ hc)
  have htext : initializerText body = skipBlanks body := by
    rw [initializerText]
    split
    · rename_i hnil
      exact absurd hnil hne
    · rfl
  rw [htext]
  exact ⟨w, hw, he, hne, hstops⟩

theorem initializerText_of_blank (h : AllBlank body) (hne : body ≠ []) :
    initializerText body = [body.getLast hne] := by
  rw [initializerText, skipBlanks_eq_nil_of_blank h, List.getLast?_eq_some_getLast hne]
  rfl

theorem trim_initializerText (body : List Char) : trim (initializerText body) = trim body := by
  rw [initializerText]
  split
  · rename_i hnil
    -- Nothing is left of blanks, whether of all of them or of the last.
    have hlast : AllBlank body.getLast?.toList := by
      intro c hc
      obtain ⟨w, hw, he, _⟩ := skipBlanks_eq_iff.1 hnil
      rw [he, List.append_nil] at hc
      exact hw c (List.mem_of_getLast? (Option.mem_toList.1 hc))
    rw [trim, trim, hnil, skipBlanks_eq_nil_of_blank hlast]
  · rw [trim, trim]
    exact congrArg trimRight (stops_skipBlanks body).dropWhile_eq

theorem Declaration.trimmed_initializer (d : Declaration) :
    (d.body.map initializerText).map trimmed = d.body.map trimmed := by
  rw [Option.map_map]
  congr 1
  funext body
  rw [Function.comp_apply, trimmed, trimmed, trim_initializerText]

theorem Declaration.semicolon_not_mem_trimmed (d : Declaration) {text : String}
    (h : d.body.map trimmed = some text) : ';' ∉ text.toList := by
  obtain ⟨body, hbody, rfl⟩ := Option.map_eq_some_iff.1 h
  rw [trimmed, String.toList_ofList]
  intro hm
  exact (d.body_valid body hbody).2 (mem_of_mem_trim hm)

theorem exists_declaration_of_mem_detections {ls : List Line} {found : Detection}
    (h : found ∈ detections ls) : ∃ (j : Nat) (d : Declaration), found.line = j + 1 ∧
      ls[j]? = some d.chars ∧ found.name = String.ofList d.name ∧
      found.initializer = d.body.map trimmed := by
  obtain ⟨i, j, _, marked, line, member, _, hline, hmember, rfl⟩ := mem_detections_iff.1 h
  obtain ⟨d, rfl⟩ := exists_declaration hmember
  rw [d.ofLine?_chars] at hmember
  cases hmember
  exact ⟨j, d, rfl, hline, rfl, d.trimmed_initializer⟩

/-- A line declares a member exactly if it has the parts of a declaration. The parts fix what is
read: the name as it stands, and the initializer from its first character that is not blank, or the
last blank of one that has no other. What is noted down of it is the trimmed body. -/
theorem member_read_iff_declaration :
    (∀ line, (Member.ofLine? line).isSome = true ↔ ∃ d : Declaration, d.chars = line) ∧
    (∀ d : Declaration,
      (∀ d' : Declaration, d'.chars = d.chars → d'.name = d.name ∧ d'.middle = d.middle) ∧
      ';' ∉ d.front ∧
      ∃ member, Member.ofLine? d.chars = some member ∧ member.name = d.name ∧
        (member.initializer = none ↔ d.middle = []) ∧
        ∀ body, d.middle = '=' :: body → ∃ text, member.initializer = some text ∧
          ((∃ c ∈ body, isBlank c = false) → ∃ w, AllBlank w ∧ body = w ++ text ∧ text ≠ [] ∧
            Stops isBlank text) ∧
          (AllBlank body → ∃ c, body.getLast? = some c ∧ text = [c]) ∧
          trimmed text = trimmed body ∧ ';' ∉ (trimmed text).toList) ∧
    ∀ (ls : List Line) (found : Detection), found ∈ detections ls →
      ∃ (j : Nat) (d : Declaration), found.line = j + 1 ∧ ls[j]? = some d.chars ∧
        found.name = String.ofList d.name ∧ found.initializer = d.body.map trimmed ∧
        ∀ text, found.initializer = some text → ';' ∉ text.toList := by
  refine ⟨fun line => ?_, fun d => ?_, fun ls found hfound => ?_⟩
  · constructor
    · intro h
      obtain ⟨member, hmember⟩ := Option.isSome_iff_exists.1 h
      exact exists_declaration hmember
    · rintro ⟨d, rfl⟩
      rw [d.ofLine?_chars]
      rfl
  · refine ⟨fun d' hd' => Declaration.unique hd', d.semicolon_not_mem_front, _, d.ofLine?_chars,
      rfl, ?_, ?_⟩
    · rw [d.middle_eq_nil_iff, Option.map_eq_none_iff]
    · intro body hmiddle
      have hbody := d.body_eq_some hmiddle
      obtain ⟨hne, _⟩ := d.body_valid body hbody
      have htrim : trimmed (initializerText body) = trimmed body := by
        rw [trimmed, trimmed, trim_initializerText]
      refine ⟨initializerText body, by rw [hbody]; rfl, initializerText_of_solid, ?_, htrim, ?_⟩
      · intro hblank
        exact ⟨_, List.getLast?_eq_some_getLast hne, initializerText_of_blank hblank hne⟩
      · rw [htrim]
        exact d.semicolon_not_mem_trimmed (by rw [hbody]; rfl)
  · obtain ⟨j, d, hline, hchars, hname, hinitializer⟩ := exists_declaration_of_mem_detections hfound
    refine ⟨j, d, hline, hchars, hname, hinitializer, fun text htext => ?_⟩
    exact d.semicolon_not_mem_trimmed (hinitializer.symm.trans htext)

example : Member.ofLine? "\tFGuid Id = \t; // x;".toList =
    some { name := "Id".toList, initializer := some ['\t'] } := by decide

end GuidAudit
