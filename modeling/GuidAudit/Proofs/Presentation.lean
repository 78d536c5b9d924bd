import GuidAudit.Proofs.Delivery
import GuidAudit.Proofs.Json.Printer
import GuidAudit.Proofs.Lines
import GuidAudit.Report

namespace GuidAudit

open Json

theorem Summary.passed_eq_isEmpty (audits : List FileAudit) :
    (Summary.ofAudits audits).passed = (audits.flatMap (·.invalid)).isEmpty := by
  rw [passed, ofAudits]
  cases audits.flatMap (·.invalid) <;> rfl

/-- A JSON report is read back as the very record that it was made from, whatever characters stand
in its texts and whether or not its audits agree with each other. -/
theorem json_report_reads_back (audits : List FileAudit) (unused : Option (List UnusedKey)) :
    let members : List (UnitText × Value) := [
      ("tool", .string "uproperty-guid-lint"),
      ("tool_version", .string "0.1.0"),
      ("summary", .object [
        ("files", .nat audits.length),
        ("found", .nat (audits.flatMap (·.found)).length),
        ("valid", .nat (audits.flatMap (·.valid)).length),
        ("invalid", .nat (audits.flatMap (·.invalid)).length),
        ("suppressed", .nat (audits.flatMap (·.suppressed)).length),
        ("passed", .bool (audits.flatMap (·.invalid)).isEmpty)]),
      ("invalid", .array ((audits.flatMap (·.invalid)).map fun v => .object [
        ("file", .string v.property.file),
        ("line", .int v.property.line),
        ("struct", .string v.property.owner),
        ("property", .string v.property.name),
        ("declaration", .string v.property.declarationText),
        ("initializer", match v.property.initializer with
          | some text => .string text
          | none => .null),
        ("reason", .string v.reason.label)])),
      ("suppressed", .array ((audits.flatMap (·.suppressed)).map fun w => .object [
        ("file", .string w.property.file),
        ("line", .int w.property.line),
        ("struct", .string w.property.owner),
        ("property", .string w.property.name),
        ("matched_key", .string w.key)])),
      ("valid", .array ((audits.flatMap (·.valid)).map fun p => .object [
        ("file", .string p.file),
        ("line", .int p.line),
        ("struct", .string p.owner),
        ("property", .string p.name),
        ("initializer", .string (p.initializer.getD ""))]))]
    let record : Value := match unused with
      | none => .object members
      | some keys =>
        .object (members.concat ("unused_suppressions", .array (keys.map fun u => .object
          (if u.formFirst then [("form", .string u.form.label), ("key", .string u.key)]
          else [("key", .string u.key), ("form", .string u.form.label)]))))
    ∃ text : String, (Report.build .json audits unused).text = text ∧
      Denotes text record ∧ Value.ofText? text = some record := by
  intro members record
  have hrecord : Record.report audits unused = record := by
    simp only [Record.report, Record.summary, Summary.passed_eq_isEmpty]
    cases unused <;> rfl
  refine ⟨record.render, ?_, record.denotes_render, record.ofText?_render⟩
  rw [← hrecord]
  rfl

variable {σ : Type} [FileSystem σ] {w : σ} {root : String} {o o' : Options}

namespace UnitText

variable {texts texts' : List UnitText} {separator : UnitText}

theorem append_assoc (a b c : UnitText) : a ++ b ++ c = a ++ (b ++ c) :=
  UnitText.ext (List.append_assoc _ _ _)

theorem intercalate_cons_of_ne_nil (text : UnitText) (h : texts ≠ []) :
    separator.intercalate (text :: texts) = text ++ separator ++ separator.intercalate texts := by
  have hne : texts.map units ≠ [] := by simpa using h
  exact UnitText.ext (List.intercalate_cons_of_ne_nil hne)

theorem intercalate_append_of_ne_nil (h : texts ≠ []) (h' : texts' ≠ []) :
    separator.intercalate (texts ++ texts') =
      separator.intercalate texts ++ separator ++ separator.intercalate texts' := by
  induction texts with
  | nil => exact absurd rfl h
  | cons text texts ih =>
    have hne : texts ++ texts' ≠ [] := by simp [h']
    rw [List.cons_append, intercalate_cons_of_ne_nil text hne]
    by_cases htexts : texts = []
    · subst htexts
      have hsingle : separator.intercalate [text] = text := UnitText.ext (by simp [intercalate])
      rw [hsingle]
      rfl
    · rw [ih htexts, intercalate_cons_of_ne_nil text htexts]
      simp only [append_assoc]

theorem intercalate_map_ofString (separator : String) (texts : List String) :
    (ofString separator).intercalate (texts.map ofString) =
      ofString (separator.intercalate texts) := by
  induction texts with
  | nil => rfl
  | cons text texts ih =>
    by_cases htexts : texts = []
    · subst htexts
      exact UnitText.ext (by simp [intercalate])
    · have hne : texts.map ofString ≠ [] := by simpa using htexts
      rw [List.map_cons, intercalate_cons_of_ne_nil _ hne, ih,
        String.intercalate_cons_of_ne_nil htexts, ofString_append, ofString_append]

end UnitText

theorem unbroken_decimal (n : Nat) : Unbroken (decimal n) := by
  intro c hc
  have hdigit : c.isDigit = true := by
    apply Nat.isDigit_of_mem_toDigits (b := 10) (n := n) (by decide) (by decide)
    simpa [decimal, decimalChars] using hc
  constructor
  · rintro rfl
    exact absurd hdigit (by decide)
  · rintro rfl
    exact absurd hdigit (by decide)

theorem Report.build_text (audits : List FileAudit) (unused : Option (List UnusedKey)) :
    (build .text audits unused).text = .intercalate "\n" (TextReport.report audits unused) := by
  simp only [build]

theorem Report.build_json (audits : List FileAudit) (unused : Option (List UnusedKey)) :
    (build .json audits unused).text = (Record.report audits unused).render := by
  simp only [build]

namespace TextReport

theorem unbroken_rule {c : Char} (h : c ≠ '\n' ∧ c ≠ '\r') (width : Nat) :
    Unbroken (rule c width) := by
  intro d hd
  rw [rule, String.toList_ofList] at hd
  rw [List.eq_of_mem_replicate hd]
  exact h

theorem unbroken_count {label : String} (h : Unbroken label) (n : Nat) :
    Unbroken (count label n) :=
  (h.append (by decide)).append (unbroken_decimal n)

theorem unbroken_header (s : Summary) : ∀ text ∈ header s, Unbroken text := by
  have hrule : Unbroken (rule '=' 80) := unbroken_rule (by decide) 80
  have htitle : Unbroken (subject ++ " Initialization Validation Report") := by decide
  have hempty : Unbroken "" := by decide
  simp only [header, List.forall_mem_cons]
  exact ⟨hrule, htitle, hrule, hempty, unbroken_count (by decide) s.files,
    unbroken_count (by decide) s.found, unbroken_count (by decide) s.valid,
    unbroken_count (by decide) s.invalid, unbroken_count (by decide) s.suppressed, hempty, nofun⟩

/-- The line that gives the verdict: the first behind the totals. -/
def verdictLine? (text : String) : Option Line := (lines text.toList)[10]?

def verdictText (passed : Bool) : String :=
  if passed then "✅ VALIDATION PASSED" else "❌ VALIDATION FAILED"

theorem verdictText_eq_failed_iff {passed : Bool} :
    (verdictText passed).toList = "❌ VALIDATION FAILED".toList ↔ passed = false := by
  cases passed <;> decide

theorem outcome_eq_cons (audits : List FileAudit) :
    ∃ rest, outcome audits = verdictText (Summary.ofAudits audits).passed :: "" :: rest := by
  unfold outcome verdictText
  split
  · exact ⟨[], rfl⟩
  · exact ⟨_, rfl⟩

theorem unbroken_verdictText (passed : Bool) : Unbroken (verdictText passed) := by
  cases passed <;> decide

theorem findings_eq_append (audits : List FileAudit) :
    ∃ rest, findings audits = (header (Summary.ofAudits audits) ++
      [verdictText (Summary.ofAudits audits).passed]) ++ "" :: rest := by
  obtain ⟨details, hdetails⟩ := outcome_eq_cons audits
  simp only [findings, hdetails, List.append_assoc, List.cons_append, List.nil_append]
  exact ⟨_, rfl⟩

theorem findings_ne_nil (audits : List FileAudit) : findings audits ≠ [] := by
  obtain ⟨rest, hfindings⟩ := findings_eq_append audits
  simp [hfindings]

theorem build_text_none (audits : List FileAudit) :
    (Report.build .text audits none).text = "\n".intercalate (findings audits) := by
  rw [Report.build_text, report, Option.map_none, Option.getD_none, List.append_nil,
    UnitText.intercalate_map_ofString]

theorem build_text_some (audits : List FileAudit) (keys : List UnusedKey) :
    (Report.build .text audits (some keys)).text =
      (Report.build .text audits none).text ++ "\n" ++ .intercalate "\n" (unusedKeys keys) := by
  have hne : (findings audits).map UnitText.ofString ≠ [] := by simp [findings_ne_nil]
  have hne' : unusedKeys keys ≠ [] := List.cons_ne_nil _ _
  rw [build_text_none, Report.build_text, report, Option.map_some, Option.getD_some,
    UnitText.intercalate_append_of_ne_nil hne hne', UnitText.intercalate_map_ofString]

/-- No path and no key can change what stands in the line of the verdict. -/
theorem verdictLine?_build (audits : List FileAudit) (unused : Option (List UnusedKey)) :
    verdictLine? (Report.build .text audits unused).text.shown =
      some (verdictText (Summary.ofAudits audits).passed).toList := by
  have hfront : ∀ text ∈ header (Summary.ofAudits audits) ++
      [verdictText (Summary.ofAudits audits).passed], Unbroken text := by
    intro text ht
    rcases List.mem_append.1 ht with ht | ht
    · exact unbroken_header _ text ht
    · obtain rfl := List.mem_singleton.1 ht
      exact unbroken_verdictText _
  have hline (tail : List Char) :
      (lines (("\n".intercalate (findings audits)).toList ++ tail))[10]? =
        some (verdictText (Summary.ofAudits audits).passed).toList := by
    obtain ⟨rest, hfindings⟩ := findings_eq_append audits
    rw [hfindings, lines_intercalate_append tail hfront (List.cons_ne_nil _ _)]
    rfl
  cases unused with
  | none =>
    rw [build_text_none, UnitText.shown_ofString, verdictLine?]
    simpa using hline []
  | some keys =>
    rw [build_text_some, build_text_none, UnitText.append_assoc, UnitText.shown_ofString_append,
      verdictLine?, String.toList_append]
    exact hline _

end TextReport

namespace Record

/-- The verdict that a text gives as a record. -/
def passed? (text : String) : Option Bool :=
  match Value.ofText? text with
  | some (.object members) =>
    match member? "summary" members with
    | some (.object totals) =>
      match member? "passed" totals with
      | some (.bool passed) => some passed
      | _ => none
    | _ => none
  | _ => none

theorem passed?_build (audits : List FileAudit) (unused : Option (List UnusedKey)) :
    passed? (Report.build .json audits unused).text.shown =
      some (Summary.ofAudits audits).passed := by
  rw [Report.build_json, UnitText.shown_ofString, passed?, Value.ofText?_render]
  cases unused <;> rfl

theorem report_some (audits : List FileAudit) (keys : List UnusedKey) :
    ∃ members, report audits none = .object members ∧
      member? "unused_suppressions" members = none ∧
      report audits (some keys) =
        .object (members.concat ("unused_suppressions", .array (keys.map unusedKey))) :=
  ⟨_, rfl, rfl, rfl⟩

end Record

namespace Options

/-- Two runs that differ at most in how their report looks and where it goes. -/
def SameAudit (o o' : Options) : Prop :=
  o' = { o with format := o'.format, checkUnused := o'.checkUnused, output := o'.output }

namespace SameAudit

variable (h : o.SameAudit o')
include h

theorem failOnInvalid_eq : o'.failOnInvalid = o.failOnInvalid := by rw [h]

theorem templateFile_eq : o'.templateFile = o.templateFile := by rw [h]

theorem auditor_eq (w : σ) (root : String) : o'.auditor w root = o.auditor w root := by
  rw [h]
  rfl

end SameAudit

end Options

theorem auditRoot_exitCode_eq (h : o.SameAudit o') (hw : o.ReportWritten w root)
    (hw' : o'.ReportWritten w root) :
    (auditRoot w root o').exitCode = (auditRoot w root o).exitCode := by
  cases ha : ((o.auditor w root).survey w).audits with
  | ok audits =>
    have ha' : ((o'.auditor w root).survey w).audits = .ok audits := by rw [h.auditor_eq, ha]
    rw [auditRoot_exitCode_of_survey hw ha, auditRoot_exitCode_of_survey hw' ha',
      h.failOnInvalid_eq]
  | error problem =>
    have ha' : ((o'.auditor w root).survey w).audits = .error problem := by rw [h.auditor_eq, ha]
    rw [auditRoot_of_error ha, auditRoot_of_error ha']
    rfl

/-- Of two runs that differ only in how their report looks and where it goes, one fails exactly if
the other does. Both hand over a report on the same audits: what is written to a file is what would
have been printed, the verdict is the same in either format, and the unused keys are added to what
is there without them. -/
theorem presentation_keeps_verdict {w : Workspace} {directory : Option String}
    (h : o.SameAudit o') (ht : given? o.templateFile = none) (hr : scanRoot w directory = .ok root)
    (hw : o.ReportWritten w root) (hw' : o'.ReportWritten w root) :
    (execute w directory o').exitCode = (execute w directory o).exitCode ∧
    ∀ audits, ((o.auditor w root).survey w).audits = .ok audits →
      let unused := ((o.auditor w root).survey w).auditor.unused
      let report (format : OutputFormat) (checkUnused : Bool) :=
        Report.build format audits (if checkUnused then some unused else none)
      (execute w directory o).HandsOver w o.output (report o.format o.checkUnused).text ∧
      (execute w directory o').HandsOver w o'.output (report o'.format o'.checkUnused).text ∧
      (∀ check check' format check'',
        (TextReport.verdictLine? (report .text check).text.shown =
            some "❌ VALIDATION FAILED".toList ↔
          Record.passed? (report .json check').text.shown = some false) ∧
        (Record.passed? (report .json check').text.shown = some false ↔
          (report format check'').allValid = false)) ∧
      (report .text true).text =
        (report .text false).text ++ "\n" ++ .intercalate "\n" (TextReport.unusedKeys unused) ∧
      ∃ members, Value.ofText? (report .json false).text.shown = some (.object members) ∧
        member? "unused_suppressions" members = none ∧
        Value.ofText? (report .json true).text.shown = some (.object (members.concat
          ("unused_suppressions", .array (unused.map Record.unusedKey)))) := by
  have ht' : given? o'.templateFile = none := by rw [h.templateFile_eq, ht]
  rw [execute_eq_auditRoot ht hr, execute_eq_auditRoot ht' hr]
  refine ⟨auditRoot_exitCode_eq h hw hw', ?_⟩
  intro audits ha unused report
  refine ⟨?_, ?_, ?_, ?_, ?_⟩
  · exact auditRoot_handsOver hw ha
  · have ha' : ((o'.auditor w root).survey w).audits = .ok audits := by rw [h.auditor_eq, ha]
    have hreport : report o'.format o'.checkUnused =
        o'.report ((o'.auditor w root).survey w) audits := by
      rw [h.auditor_eq]
      rfl
    rw [hreport]
    exact auditRoot_handsOver hw' ha'
  · intro check check' format check''
    simp only [report]
    rw [TextReport.verdictLine?_build, Record.passed?_build, Option.some.injEq,
      Option.some.injEq, TextReport.verdictText_eq_failed_iff]
    exact ⟨Iff.rfl, Iff.rfl⟩
  · exact TextReport.build_text_some audits unused
  · obtain ⟨members, hnone, hmember, hsome⟩ := Record.report_some audits unused
    refine ⟨members, ?_, hmember, ?_⟩
    · simp only [report, Report.build_json, UnitText.shown_ofString]
      rw [← hnone]
      exact Value.ofText?_render _
    · simp only [report, Report.build_json, UnitText.shown_ofString]
      rw [← hsome]
      exact Value.ofText?_render _

theorem presentation_keeps_verdict_of_bare_member :
    let w := Workspace.oneHeader "UPROPERTY()\nFGuid Id;"
    let o : Options := { failOnInvalid := true }
    let o' : Options := { o with format := .json, checkUnused := true, output := some "out.json" }
    o.SameAudit o' ∧ given? o.templateFile = none ∧ scanRoot w (some ".") = .ok "." ∧
      o.ReportWritten w "." ∧ o'.ReportWritten w "." ∧
      (execute w (some ".") o').exitCode = (execute w (some ".") o).exitCode ∧
      ∃ audits, ((o.auditor w ".").survey w).audits = .ok audits ∧
        (execute w (some ".") o').HandsOver w (some "out.json")
          (o'.report ((o.auditor w ".").survey w) audits).text := by
  have hempty : (FileSystem.write (Workspace.oneHeader "UPROPERTY()\nFGuid Id;") .wanted
      "out.json" .empty).2 = .ok () := rfl
  intro w o o'
  have hsame : o.SameAudit o' := rfl
  have hr : scanRoot w (some ".") = .ok "." := rfl
  have hw : o.ReportWritten w "." := by
    intro _ _ ho
    cases ho
  have hw' : o'.ReportWritten w "." := by
    intro path audits ho _
    cases ho
    exact (Workspace.write_result rfl .wanted "out.json" _ .empty).trans hempty
  have hheaders : (o.auditor w ".").headers w = .ok ["A.h"] := Workspace.oneHeader_headers _
  obtain ⟨hcode, hreport⟩ := presentation_keeps_verdict hsame rfl hr hw hw'
  obtain ⟨_, hhanded, _⟩ := hreport _ (Auditor.survey_audits hheaders)
  exact ⟨hsame, rfl, hr, hw, hw', hcode, _, Auditor.survey_audits hheaders, hhanded⟩

end GuidAudit
