import GuidAudit.Proofs.Accounting
import GuidAudit.Proofs.Declaration
import GuidAudit.Proofs.JoinedPath
import GuidAudit.Proofs.Owner
import GuidAudit.Proofs.Presentation

namespace GuidAudit

variable {p q : Property} {file : String} {n m : Int}

/-- A text that no line feed breaks. -/
def OneLine (text : String) : Prop := '\n' ∉ text.toList

instance (text : String) : Decidable (OneLine text) :=
  inferInstanceAs (Decidable ('\n' ∉ text.toList))

theorem OneLine.append {text text' : String} (h : OneLine text) (h' : OneLine text') :
    OneLine (text ++ text') := by
  rw [OneLine, String.toList_append, List.mem_append, not_or]
  exact ⟨h, h'⟩

theorem Unbroken.oneLine {text : String} (h : Unbroken text) : OneLine text :=
  fun hc => (h _ hc).1 rfl

theorem IsIdentifier.oneLine {text : String} (h : IsIdentifier text) : OneLine text :=
  h.not_mem (by decide)

/-- Any text under any path with no line feed in it, and the keys that it is audited with. -/
structure Source where
  file : String
  content : String
  keys : KeySet
  one_line : OneLine file

def Source.audit (s : Source) : FileAudit := auditContent s.file s.content s.keys

namespace Property

/-- Where a property stands and what it is called. -/
def place (p : Property) : String × Int × String × String := (p.file, p.line, p.owner, p.name)

/-- What a report tells of a property that needs a fix. -/
def entry (p : Property) : (String × Int × String × String) × String × Option String :=
  (p.place, p.declarationText, p.initializer)

/-- What the properties of a source have in common: none of their texts breaks a line, and their
names are identifiers. -/
structure Reportable (p : Property) : Prop where
  file : OneLine p.file
  owner : IsIdentifier p.owner
  name : IsIdentifier p.name
  declaration : OneLine p.declarationText
  initializer : ∀ text ∈ p.initializer, OneLine text

end Property

theorem Declaration.mem_chars {d : Declaration} {body : List Char} {c : Char}
    (hbody : d.body = some body) (h : c ∈ body) : c ∈ d.chars := by
  have hmiddle : d.middle = '=' :: body := by rw [middle, hbody]; rfl
  rw [chars, front, hmiddle]
  simp [h]

theorem oneLine_trimmed {s : List Char} (h : '\n' ∉ s) : OneLine (trimmed s) := by
  rw [OneLine, trimmed, String.toList_ofList]
  exact fun hm => h (mem_of_mem_trim hm)

theorem reportable_of_mem {content : List Char} (hfile : OneLine file)
    (h : p ∈ properties file (lines content)) : p.Reportable := by
  obtain ⟨i, j, _, ⟨marked, line, member, _, hline, hmember, hdetection⟩, rfl, howner⟩ :=
    mem_properties_iff.1 h
  have hbroken : '\n' ∉ line := lineFeed_not_mem_of_mem_lines (List.mem_of_getElem? hline)
  have hdeclaration : p.declarationText = trimmed line := by rw [hdetection]
  have hinitializer : p.initializer = member.initializer.map trimmed := by rw [hdetection]
  obtain ⟨d, rfl⟩ := exists_declaration hmember
  refine ⟨hfile, owner_isIdentifier_of_mem h, name_isIdentifier_of_mem h, ?_, ?_⟩
  · rw [hdeclaration]
    exact oneLine_trimmed hbroken
  · intro text htext
    rw [d.ofLine?_chars] at hmember
    cases hmember
    rw [hinitializer, d.trimmed_initializer] at htext
    obtain ⟨body, hbody, rfl⟩ := Option.map_eq_some_iff.1 htext
    exact oneLine_trimmed fun hm => hbroken (d.mem_chars hbody hm)

/-- What is known of the entries of a report on some sources. -/
structure Reports (audits : List FileAudit) : Prop where
  invalid : ∀ v ∈ audits.flatMap (·.invalid), v.property.Reportable
  suppressed : ∀ w ∈ audits.flatMap (·.suppressed), w.property.Reportable
  valid : ∀ p ∈ audits.flatMap (·.valid), p.Reportable
  accepted : ∀ p ∈ audits.flatMap (·.valid), p.hasAcceptedInitializer = true

theorem Source.reportable (s : Source) (h : p ∈ s.audit.found) : p.Reportable :=
  reportable_of_mem s.one_line h

theorem reports_sources (sources : List Source) : Reports (sources.map Source.audit) := by
  have hsource {α : Type} {entries : FileAudit → List α} {a : α}
      (h : a ∈ (sources.map Source.audit).flatMap entries) : ∃ s : Source, a ∈ entries s.audit := by
    obtain ⟨audit, haudit, ha⟩ := List.mem_flatMap.1 h
    obtain ⟨s, _, rfl⟩ := List.mem_map.1 haudit
    exact ⟨s, ha⟩
  constructor
  · intro v hv
    obtain ⟨s, hv⟩ := hsource hv
    obtain ⟨p, hp, hviolation⟩ := List.mem_filterMap.1 hv
    rw [Property.violation?_property hviolation]
    exact s.reportable hp
  · intro w hw
    obtain ⟨s, hw⟩ := hsource hw
    exact s.reportable (mem_suppressed_iff.1 hw).1
  · intro p hp
    obtain ⟨s, hp⟩ := hsource hp
    exact s.reportable (List.mem_filter.1 hp).1
  · intro p hp
    obtain ⟨s, hp⟩ := hsource hp
    have hverdict : p.verdict s.keys = .valid := by simpa using (List.mem_filter.1 hp).2
    have hdeserves := p.deserves_verdict s.keys
    rw [hverdict] at hdeserves
    exact Property.hasAcceptedInitializer_iff.2 hdeserves.2

theorem isDigit_or_minus_of_mem {c : Char} (h : c ∈ decimalChars n) :
    c.isDigit = true ∨ c = '-' := by
  have hdigits {k : Nat} (h : c ∈ Nat.toDigits 10 k) : c.isDigit = true :=
    Nat.isDigit_of_mem_toDigits (by decide) (by decide) h
  cases n with
  | ofNat k => exact .inl (hdigits h)
  | negSucc k =>
    rcases List.mem_cons.1 h with hc | h
    · exact .inr hc
    · exact .inl (hdigits h)

theorem not_mem_decimal {c : Char} (hdigit : c.isDigit = false) (hminus : c ≠ '-') :
    c ∉ (decimal n).toList := by
  intro h
  rw [decimal, String.toList_ofList] at h
  rcases isDigit_or_minus_of_mem h with hc | hc
  · rw [hdigit] at hc
    cases hc
  · exact hminus hc

theorem decimal_inj (h : decimal n = decimal m) : n = m := by
  have hdigits {k l : Nat} (h : Nat.toDigits 10 k = Nat.toDigits 10 l) : k = l := by
    rw [← ofDigits_toDigits k, h, ofDigits_toDigits]
  have hminus {k : Nat} {s : List Char} : Nat.toDigits 10 k ≠ '-' :: s := by
    intro hs
    have hmem : '-' ∈ Nat.toDigits 10 k := hs ▸ List.mem_cons_self
    exact absurd (Nat.isDigit_of_mem_toDigits (by decide) (by decide) hmem) (by decide)
  have hchars : decimalChars n = decimalChars m := String.ofList_injective h
  cases n with
  | ofNat k =>
    cases m with
    | ofNat l => rw [hdigits hchars]
    | negSucc l => exact absurd hchars hminus
  | negSucc k =>
    cases m with
    | ofNat l => exact absurd hchars.symm hminus
    | negSucc l =>
      have hsucc := hdigits (List.cons.inj hchars).2
      rw [Nat.succ.inj hsucc]

theorem Property.position_inj (h : p.position = q.position) :
    p.file = q.file ∧ p.line = q.line := by
  have htext (p : Property) :
      p.position.toList = p.file.toList ++ ':' :: (decimal p.line).toList := by
    simp [position]
  have hchars := congrArg String.toList h
  rw [htext, htext] at hchars
  obtain ⟨hfile, hline⟩ := append_last_inj (not_mem_decimal (by decide) (by decide))
    (not_mem_decimal (by decide) (by decide)) hchars
  exact ⟨String.toList_inj.1 hfile, decimal_inj (String.toList_inj.1 hline)⟩

/-- Lines that are joined can be told apart again. -/
theorem intercalate_inj {texts texts' : List String} (hne : texts ≠ []) (hne' : texts' ≠ [])
    (h : ∀ text ∈ texts, OneLine text) (h' : ∀ text ∈ texts', OneLine text)
    (he : "\n".intercalate texts = "\n".intercalate texts') : texts = texts' := by
  have hcut {texts : List String} (hne : texts ≠ []) (h : ∀ text ∈ texts, OneLine text) :
      cutAt (· == '\n') ("\n".intercalate texts).toList = texts.map String.toList := by
    rw [String.toList_intercalate]
    apply cutAt_intercalate
    · simpa using hne
    · rfl
    · intro piece hpiece c hc
      obtain ⟨text, htext, rfl⟩ := List.mem_map.1 hpiece
      apply beq_eq_false_iff_ne.2
      rintro rfl
      exact h text htext hc
  have hmap := hcut hne h
  rw [he, hcut hne' h'] at hmap
  exact ((List.map_inj_right fun _ _ => String.toList_inj.1).1 hmap).symm

namespace Property

variable (h : p.Reportable)
include h

theorem Reportable.oneLine_position : OneLine p.position := by
  have hdecimal : OneLine (decimal p.line) := not_mem_decimal (by decide) (by decide)
  exact (h.file.append (by decide)).append hdecimal

theorem Reportable.oneLine_scopedName : OneLine p.scopedName :=
  (h.owner.oneLine.append (by decide)).append h.name.oneLine

/-- The path may hold what follows it, so the place is read from its end. -/
theorem Reportable.place_eq (h' : q.Reportable)
    (he : p.position ++ " - " ++ p.scopedName = q.position ++ " - " ++ q.scopedName) :
    p.place = q.place := by
  have htext (p : Property) : (p.position ++ " - " ++ p.scopedName).toList =
      ((p.position ++ " -").toList ++ ' ' :: p.owner.toList) ++ ':' :: ':' :: p.name.toList := by
    simp [scopedName]
  have hchars := congrArg String.toList he
  rw [htext, htext] at hchars
  obtain ⟨hchars, hname⟩ := append_scope_inj (h.name.not_mem (by decide))
    (h'.name.not_mem (by decide)) hchars
  obtain ⟨hchars, howner⟩ := append_last_inj (h.owner.not_mem (by decide))
    (h'.owner.not_mem (by decide)) hchars
  obtain ⟨hfile, hline⟩ :=
    position_inj ((String.append_left_inj _).1 (String.toList_inj.1 hchars))
  rw [place, place, hfile, hline, String.toList_inj.1 howner, String.toList_inj.1 hname]

end Property

namespace TextReport

variable {audits audits' : List FileAudit} {rest rest' : List String}

theorem oneLine_issue (h : p.Reportable) : ∀ text ∈ issue p, OneLine text := by
  rw [issue]
  split
  · rename_i text htext
    have hcurrent : OneLine "Current initializer: " := by decide
    rw [List.forall_mem_cons, List.forall_mem_singleton]
    exact ⟨hcurrent.append (h.initializer text htext), by decide⟩
  · rw [List.forall_mem_singleton]
    decide

theorem oneLine_violation {v : Violation} (h : v.property.Reportable) :
    ∀ text ∈ violation v, OneLine text := by
  have hfile : OneLine "File: " := by decide
  have hstruct : OneLine "Struct: " := by decide
  have hproperty : OneLine "Property: " := by decide
  have hdeclaration : OneLine "Declaration: " := by decide
  have hexpected : OneLine ("Expected: " ++ " or ".intercalate acceptedInitializers) := by decide
  simp only [violation, List.forall_mem_append, List.forall_mem_cons]
  exact ⟨⟨⟨hfile.append h.oneLine_position, hstruct.append h.owner.oneLine,
    hproperty.append h.name.oneLine, hdeclaration.append h.declaration, nofun⟩, oneLine_issue h⟩,
    hexpected, by decide, nofun⟩

theorem oneLine_waiver {w : Waiver} (h : w.property.Reportable) : OneLine (waiver w) :=
  (h.oneLine_position.append (by decide)).append h.oneLine_scopedName

theorem oneLine_valid (h : p.Reportable) : OneLine (valid p) := by
  have hmark : OneLine "✅ " := by decide
  have hinitializer : OneLine (p.initializer.getD "") := by
    cases hp : p.initializer with
    | none => decide
    | some text => exact h.initializer text hp
  exact (((((hmark.append h.oneLine_position).append (by decide)).append
    h.oneLine_scopedName).append (by decide)).append hinitializer)

theorem oneLine_listing {title : String} {width : Nat} {entries : List String}
    (htitle : OneLine title) (h : ∀ text ∈ entries, OneLine text) :
    ∀ text ∈ listing title width entries, OneLine text := by
  rw [listing]
  split
  · exact nofun
  · simp only [List.forall_mem_append, List.forall_mem_cons]
    exact ⟨⟨⟨htitle, (unbroken_rule (by decide) width).oneLine, nofun⟩, h⟩, by decide, nofun⟩

/-- What stands between the totals and the properties that need a fix. -/
def opening (passed : Bool) : List String :=
  if passed then ["✅ VALIDATION PASSED", ""]
  else ["❌ VALIDATION FAILED", "", "Invalid Properties (require fixes):", rule '-' 40]

/-- Each part of a report is made from one of its lists. -/
theorem findings_eq (audits : List FileAudit) :
    findings audits = header (Summary.ofAudits audits) ++
      (opening (Summary.ofAudits audits).passed ++
        ((audits.flatMap (·.invalid)).flatMap violation ++
          (listing "Suppressed Properties:" 20 ((audits.flatMap (·.suppressed)).map waiver) ++
            listing "Valid Properties:" 15 ((audits.flatMap (·.valid)).map valid)))) := by
  have houtcome : outcome audits = opening (Summary.ofAudits audits).passed ++
      (audits.flatMap (·.invalid)).flatMap violation := by
    rw [outcome, Summary.passed_eq_isEmpty]
    cases audits.flatMap (·.invalid) <;> rfl
  simp only [findings, houtcome, List.append_assoc]

theorem oneLine_opening (passed : Bool) : ∀ text ∈ opening passed, OneLine text := by
  have hrule : OneLine (rule '-' 40) := (unbroken_rule (by decide) 40).oneLine
  cases passed with
  | true => decide
  | false =>
    rw [opening]
    simp only [Bool.false_eq_true, if_false, List.forall_mem_cons]
    exact ⟨by decide, by decide, by decide, hrule, nofun⟩

theorem oneLine_findings (h : Reports audits) : ∀ text ∈ findings audits, OneLine text := by
  simp only [findings_eq, List.forall_mem_append]
  refine ⟨?_, ?_, ?_, ?_, ?_⟩
  · exact fun text ht => (unbroken_header _ text ht).oneLine
  · exact oneLine_opening _
  · intro text ht
    obtain ⟨v, hv, ht⟩ := List.mem_flatMap.1 ht
    exact oneLine_violation (h.invalid v hv) text ht
  · apply oneLine_listing (by decide)
    rw [List.forall_mem_map]
    exact fun w hw => oneLine_waiver (h.suppressed w hw)
  · apply oneLine_listing (by decide)
    rw [List.forall_mem_map]
    exact fun p hp => oneLine_valid (h.valid p hp)

theorem count_inj {label : String} {n m : Nat} (h : count label n = count label m) : n = m :=
  Int.ofNat.inj (decimal_inj ((String.append_right_inj _).1 h))

theorem header_append_inj {s s' : Summary} (h : header s ++ rest = header s' ++ rest') :
    s = s' ∧ rest = rest' := by
  obtain ⟨hheader, hrest⟩ := List.append_inj h rfl
  simp only [header, List.cons.injEq] at hheader
  obtain ⟨_, _, _, _, hfiles, hfound, hvalid, hinvalid, hsuppressed, _⟩ := hheader
  cases s
  cases s'
  obtain rfl := count_inj hfiles
  obtain rfl := count_inj hfound
  obtain rfl := count_inj hvalid
  obtain rfl := count_inj hinvalid
  obtain rfl := count_inj hsuppressed
  exact ⟨rfl, hrest⟩

/-- The line behind a declaration begins in one of two ways, and so tells whether there is an
initializer. -/
theorem issue_append_inj (h : issue p ++ rest = issue q ++ rest') :
    p.initializer = q.initializer ∧ rest = rest' := by
  have hne (text : String) :
      "Current initializer: " ++ text ≠ "Issue: Missing in-class initializer" := by
    intro he
    have hhead := congrArg (fun s : String => s.toList.head?) he
    simp at hhead
  cases hp : p.initializer <;> cases hq : q.initializer <;> simp only [issue, hp, hq] at h
  · exact ⟨rfl, (List.cons.inj h).2⟩
  · exact absurd (List.cons.inj h).1.symm (hne _)
  · exact absurd (List.cons.inj h).1 (hne _)
  · obtain ⟨hcurrent, h⟩ := List.cons.inj h
    exact ⟨congrArg some ((String.append_right_inj _).1 hcurrent), (List.cons.inj h).2⟩

theorem violation_append_inj {v v' : Violation} (h : violation v ++ rest = violation v' ++ rest') :
    v.property.entry = v'.property.entry ∧ rest = rest' := by
  simp only [violation, List.append_assoc, List.cons_append, List.nil_append, List.cons.injEq,
    String.append_right_inj] at h
  obtain ⟨hposition, howner, hname, hdeclaration, h⟩ := h
  obtain ⟨hfile, hline⟩ := Property.position_inj hposition
  obtain ⟨hinitializer, h⟩ := issue_append_inj h
  refine ⟨?_, (List.cons.inj (List.cons.inj h).2).2⟩
  simp only [Property.entry, Property.place, hfile, hline, howner, hname, hdeclaration,
    hinitializer]

theorem flatMap_violation_append_inj {vs vs' : List Violation} (hlength : vs.length = vs'.length)
    (h : vs.flatMap violation ++ rest = vs'.flatMap violation ++ rest') :
    vs.map (·.property.entry) = vs'.map (·.property.entry) ∧ rest = rest' := by
  induction vs generalizing vs' with
  | nil =>
    obtain rfl := List.eq_nil_of_length_eq_zero hlength.symm
    exact ⟨rfl, h⟩
  | cons v vs ih =>
    obtain ⟨v', vs', rfl⟩ := List.exists_cons_of_length_eq_add_one hlength.symm
    rw [List.flatMap_cons, List.flatMap_cons, List.append_assoc, List.append_assoc] at h
    obtain ⟨hentry, h⟩ := violation_append_inj h
    obtain ⟨hentries, hrest⟩ := ih (Nat.succ.inj hlength) h
    exact ⟨List.cons_eq_cons.2 ⟨hentry, hentries⟩, hrest⟩

theorem listing_append_inj {title : String} {width : Nat} {entries entries' : List String}
    (hlength : entries.length = entries'.length)
    (h : listing title width entries ++ rest = listing title width entries' ++ rest') :
    entries = entries' ∧ rest = rest' := by
  cases entries with
  | nil =>
    obtain rfl := List.eq_nil_of_length_eq_zero hlength.symm
    exact ⟨rfl, h⟩
  | cons entry entries =>
    obtain ⟨entry', entries', rfl⟩ := List.exists_cons_of_length_eq_add_one hlength.symm
    simp only [listing, List.isEmpty_cons, Bool.false_eq_true, if_false, List.append_assoc] at h
    obtain ⟨hentries, h⟩ := List.append_inj (List.append_cancel_left h) hlength
    exact ⟨hentries, List.append_cancel_left h⟩

theorem exists_initializer (h : p.hasAcceptedInitializer = true) :
    ∃ text, p.initializer = some text ∧ ' ' ∉ text.toList := by
  rcases Property.hasAcceptedInitializer_iff.1 h with h | h
  · exact ⟨_, h, by decide⟩
  · exact ⟨_, h, by decide⟩

theorem valid_inj (h : p.Reportable) (h' : q.Reportable) (ha : p.hasAcceptedInitializer = true)
    (ha' : q.hasAcceptedInitializer = true) (he : valid p = valid q) :
    (p.place, p.initializer) = (q.place, q.initializer) := by
  have htext {p : Property} {text : String} (hp : p.initializer = some text) :
      (valid p).toList = ("✅ " ++ (p.position ++ " - " ++ p.scopedName) ++ " =").toList ++
        ' ' :: text.toList := by
    simp [valid, hp]
  obtain ⟨text, hp, hblank⟩ := exists_initializer ha
  obtain ⟨text', hq, hblank'⟩ := exists_initializer ha'
  have hchars := congrArg String.toList he
  rw [htext hp, htext hq] at hchars
  obtain ⟨hfront, hinitializer⟩ := append_last_inj hblank hblank' hchars
  have hplace := (String.append_right_inj _).1
    ((String.append_left_inj _).1 (String.toList_inj.1 hfront))
  rw [h.place_eq h' hplace, hp, hq, String.toList_inj.1 hinitializer]

theorem findings_eq_of_text_eq (h : Reports audits) (h' : Reports audits')
    (he : (Report.build .text audits none).text = (Report.build .text audits' none).text) :
    findings audits = findings audits' := by
  rw [build_text_none, build_text_none, UnitText.ofString_inj] at he
  exact intercalate_inj (findings_ne_nil audits) (findings_ne_nil audits') (oneLine_findings h)
    (oneLine_findings h') he

end TextReport

/-- Entries that are written alike agree in all that is read from their lines. -/
theorem map_eq_of_map_eq {α β γ : Type} {f : α → β} {g : α → γ} {as as' : List α}
    (hfg : ∀ a ∈ as, ∀ a' ∈ as', f a = f a' → g a = g a') (h : as.map f = as'.map f) :
    as.map g = as'.map g := by
  induction as generalizing as' with
  | nil =>
    obtain rfl := List.map_eq_nil_iff.1 h.symm
    rfl
  | cons a as ih =>
    obtain ⟨a', as', rfl, hf, hfs⟩ := List.map_eq_cons_iff.1 h.symm
    simp only [List.forall_mem_cons] at hfg
    have hg : g a = g a' := hfg.1.1 hf.symm
    have hgs : as.map g = as'.map g := ih (fun b hb => (hfg.2 b hb).2) hfs.symm
    rw [List.map_cons, List.map_cons, hg, hgs]

/-- Two lists of sources with the same text report have the same properties to fix, the same
suppressed properties and the same valid ones, in the same order, whatever their paths look like:
the report tells of each where it stands, what it is called and, unless a key suppresses it, what it
is initialized with. -/
theorem text_report_tells_its_entries (sources sources' : List Source)
    (h : (Report.build .text (sources.map Source.audit) none).text =
      (Report.build .text (sources'.map Source.audit) none).text) :
    let audits := sources.map Source.audit
    let audits' := sources'.map Source.audit
    (audits.flatMap (·.invalid)).map (·.property.entry) =
      (audits'.flatMap (·.invalid)).map (·.property.entry) ∧
    (audits.flatMap (·.suppressed)).map (·.property.place) =
      (audits'.flatMap (·.suppressed)).map (·.property.place) ∧
    (audits.flatMap (·.valid)).map (fun p => (p.place, p.initializer)) =
      (audits'.flatMap (·.valid)).map (fun p => (p.place, p.initializer)) := by
  intro audits audits'
  have hreports : Reports audits := reports_sources sources
  have hreports' : Reports audits' := reports_sources sources'
  have hreport : TextReport.findings audits = TextReport.findings audits' :=
    TextReport.findings_eq_of_text_eq hreports hreports' h
  rw [TextReport.findings_eq, TextReport.findings_eq] at hreport
  -- The totals come first, and with them the length of every list.
  obtain ⟨hsummary, hreport⟩ := TextReport.header_append_inj hreport
  have hinvalid : (audits.flatMap (·.invalid)).length = (audits'.flatMap (·.invalid)).length :=
    congrArg Summary.invalid hsummary
  have hsuppressed : (audits.flatMap (·.suppressed)).length =
      (audits'.flatMap (·.suppressed)).length := congrArg Summary.suppressed hsummary
  have hvalid : (audits.flatMap (·.valid)).length = (audits'.flatMap (·.valid)).length :=
    congrArg Summary.valid hsummary
  rw [hsummary] at hreport
  obtain ⟨hentries, hreport⟩ :=
    TextReport.flatMap_violation_append_inj hinvalid (List.append_cancel_left hreport)
  obtain ⟨hwaivers, hreport⟩ :=
    TextReport.listing_append_inj (by simpa using hsuppressed) hreport
  obtain ⟨hlines, _⟩ :=
    TextReport.listing_append_inj (by simpa using hvalid) ((List.append_left_inj []).2 hreport)
  refine ⟨hentries, ?_, ?_⟩
  · exact map_eq_of_map_eq (fun w hw w' hw' => (hreports.suppressed w hw).place_eq
      (hreports'.suppressed w' hw')) hwaivers
  · exact map_eq_of_map_eq (fun p hp q hq => TextReport.valid_inj (hreports.valid p hp)
      (hreports'.valid q hq) (hreports.accepted p hp) (hreports'.accepted q hq)) hlines

/-- The report does not tell by which key a member is suppressed, so two sources with different keys
can share it. Their path looks like a line of a report. -/
theorem text_report_tells_entries_of_keys :
    let file := "A.h:2 - S::Id = FGuid().h"
    let content :=
      "UPROPERTY()\nFGuid Id;\nUPROPERTY()\nFGuid Key;\nUPROPERTY()\nFGuid Tag = FGuid();"
    let source : Source := ⟨file, content, .ofList ["*::Id"], by decide⟩
    let source' : Source := ⟨file, content, .ofList ["UnknownStruct::Id"], by decide⟩
    source.audit.suppressed ≠ source'.audit.suppressed ∧
    (Report.build .text [source.audit] none).text = (Report.build .text [source'.audit] none).text ∧
    source.audit.invalid.map (·.property.entry) = source'.audit.invalid.map (·.property.entry) ∧
    source.audit.suppressed.map (·.property.place) =
      source'.audit.suppressed.map (·.property.place) ∧
    source.audit.valid.map (fun p => (p.place, p.initializer)) =
      source'.audit.valid.map (fun p => (p.place, p.initializer)) := by
  intro file content source source'
  have hne : source.audit.suppressed ≠ source'.audit.suppressed := by decide +kernel
  have h : (Report.build .text [source.audit] none).text =
      (Report.build .text [source'.audit] none).text := by
    rw [TextReport.build_text_none, TextReport.build_text_none]
    have hlines : TextReport.findings [source.audit] = TextReport.findings [source'.audit] := by
      decide +kernel
    rw [hlines]
  have htold := text_report_tells_its_entries [source] [source'] h
  simp only [List.map_cons, List.map_nil, List.flatMap_cons, List.flatMap_nil, List.append_nil]
    at htold
  exact ⟨hne, h, htold⟩

end GuidAudit
