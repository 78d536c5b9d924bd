import GuidAudit.CommandLine.Execution
import GuidAudit.Proofs.Detection
import GuidAudit.Proofs.Owner
import GuidAudit.Proofs.Reading
import GuidAudit.Proofs.Search
import GuidAudit.Proofs.Survey

namespace GuidAudit

variable {σ : Type} [FileSystem σ] {w : σ} {root file : String} {options : Options} {keys : KeySet}
variable {ls : List Line} {files : List String} {audits : List FileAudit}

/-- Some annotation stands for a member without an accepted initializer, and none of the keys that
could suppress the member is given. -/
def Offends (ls : List Line) (file : String) (keys : KeySet) : Prop :=
  ∃ i j member owner, Marks ls i j ∧ memberAt? ls j = some member ∧ OwnedBy ls j owner ∧
    (∀ text, member.initializer = some text →
      trimmed text ≠ "FGuid()" ∧ trimmed text ≠ "FGuid::NewGuid()") ∧
    ∀ key ∈ [file ++ ":" ++ owner ++ "::" ++ String.ofList member.name,
        owner ++ "::" ++ String.ofList member.name, "*::" ++ String.ofList member.name, file],
      ↑key ∉ keys

theorem find?_eq_none_iff_keys {owner name : String} : keys.find? file owner name = none ↔
    ∀ key ∈ [file ++ ":" ++ owner ++ "::" ++ name, owner ++ "::" ++ name, "*::" ++ name, file],
      ↑key ∉ keys := by
  rw [KeySet.find?_eq_none_iff]
  constructor
  · intro h key hk
    simp only [List.mem_cons, List.not_mem_nil, or_false] at hk
    rcases hk with rfl | rfl | rfl | rfl
    · exact h .fileStructProperty
    · exact h .structProperty
    · exact h .anyStructProperty
    · exact h .file
  · intro h form
    apply h
    cases form <;> simp [KeyForm.key]

theorem exists_property_iff_offends :
    (∃ p ∈ properties file ls,
      p.suppressingKey? keys = none ∧ p.hasAcceptedInitializer = false) ↔
    Offends ls file keys := by
  constructor
  · intro h
    obtain ⟨p, hp, hs, ha⟩ := h
    obtain ⟨i, j, hj, hr, rfl, ho⟩ := mem_properties_iff.1 hp
    obtain ⟨member, hm, hname, hinit⟩ := hr.exists_member
    refine ⟨i, j, member, p.owner, hj, hm, ho, fun text ht => ?_, ?_⟩
    · apply Property.hasAcceptedInitializer_eq_false_iff.1 ha (trimmed text)
      rw [hinit, ht]
      rfl
    · rw [← hname]
      exact find?_eq_none_iff_keys.1 hs
  · intro h
    obtain ⟨i, j, member, owner, hj, hm, ho, hi, hk⟩ := h
    obtain ⟨d, hr⟩ := hj.exists_records
    obtain ⟨member', hm', hname, hinit⟩ := hr.exists_member
    obtain rfl : member' = member := Option.some.inj (hm'.symm.trans hm)
    refine ⟨{ d with file, owner }, mem_properties_iff.2 ⟨i, j, hj, hr, rfl, ho⟩, ?_, ?_⟩
    · apply find?_eq_none_iff_keys.2
      rw [hname]
      exact hk
    · apply Property.hasAcceptedInitializer_eq_false_iff.2
      intro text ht
      rw [hinit] at ht
      obtain ⟨raw, hraw, rfl⟩ := Option.map_eq_some_iff.1 ht
      exact hi raw hraw

theorem auditContent_invalid_eq_nil_iff {content : String} :
    (auditContent file content keys).invalid = [] ↔ ¬ Offends (lines content.toList) file keys := by
  rw [auditContent, auditProperties_invalid_eq_nil_iff, exists_property_iff_offends]

theorem Summary.passed_iff :
    (Summary.ofAudits audits).passed = true ↔ ∀ audit ∈ audits, audit.invalid = [] := by
  rw [passed, beq_iff_eq, ofAudits, List.length_eq_zero_iff, List.flatMap_eq_nil_iff]

theorem auditContent_found_ne_nil {content : String}
    (h : (auditContent file content keys).invalid ≠ []) :
    (auditContent file content keys).found ≠ [] := by
  intro hf
  apply h
  rw [auditContent] at hf ⊢
  change properties file (lines content.toList) = [] at hf
  rw [hf]
  rfl

/-- A header can be read, and something in it offends. -/
def HasOffence (w : σ) (file : String) (keys : KeySet) : Prop :=
  ∃ text : String, FileSystem.read w file = .ok text.toUTF8 ∧
    Offends (lines (dropByteOrderMark text.toList)) file keys

theorem hasOffence_iff : HasOffence w file keys ↔
    ∃ content, readHeader w file = .ok content ∧ (auditContent file content keys).invalid ≠ [] := by
  simp only [readHeader_eq_ok_iff, ne_eq, auditContent_invalid_eq_nil_iff, Classical.not_not]
  constructor
  · intro h
    obtain ⟨text, hr, ho⟩ := h
    exact ⟨_, ⟨text, hr, rfl⟩, by rwa [String.toList_ofList]⟩
  · intro h
    obtain ⟨_, ⟨text, hr, rfl⟩, ho⟩ := h
    exact ⟨text, hr, by rwa [String.toList_ofList] at ho⟩

theorem Auditor.survey_passed_iff {a : Auditor} (h : a.headers w = .ok files)
    (ha : (a.survey w).audits = .ok audits) :
    (Summary.ofAudits audits).passed = true ↔
      ¬ ∃ file ∈ files, HasOffence w file a.config.keys := by
  rw [Summary.passed_iff]
  simp only [mem_survey_audits_iff h ha, hasOffence_iff]
  constructor
  · intro hall h
    obtain ⟨file, hfile, content, hr, hi⟩ := h
    exact hi (hall _ ⟨auditContent_found_ne_nil hi, file, hfile, content, hr, rfl⟩)
  · intro hnone audit h
    obtain ⟨_, file, hfile, content, hr, rfl⟩ := h
    by_cases hi : (auditContent file content a.config.keys).invalid = []
    · exact hi
    · exact absurd ⟨file, hfile, content, hr, hi⟩ hnone

namespace Options

/-- The auditor that a run sets to work. -/
def auditor (options : Options) (w : σ) (root : String) : Auditor where
  config :=
    { root
      recursive := options.recursive
      keys := (Suppressions.load w options.suppressionFile).1 }

def report (options : Options) (survey : Survey) (audits : List FileAudit) : Report :=
  .build options.format audits (if options.checkUnused then some survey.auditor.unused else none)

/-- Where a file is asked for, the report on what was found can be written to it. -/
def ReportWritten (options : Options) (w : σ) (root : String) : Prop :=
  let survey := (options.auditor w root).survey w
  ∀ path audits, given? options.output = some path → survey.audits = .ok audits →
    (FileSystem.writeText w .wanted path (options.report survey audits).text).2 = .ok ()

/-- The run is asked to fail, and one of the headers gives it a reason. -/
def FindsOffence (options : Options) (w : σ) (files : List String) : Prop :=
  options.failOnInvalid = true ∧
    ∃ file ∈ files, HasOffence w file (Suppressions.load w options.suppressionFile).1

end Options

@[simp] theorem Completion.after_exitCode {σ : Type} (earlier : List Message) (c : Completion σ) :
    (c.after earlier).exitCode = c.exitCode := rfl

theorem auditRoot_exitCode (w : σ) (root : String) (options : Options) :
    (auditRoot w root options).exitCode =
      match ((options.auditor w root).survey w).audits with
      | .error _ => 1
      | .ok audits =>
        (deliver w (options.report ((options.auditor w root).survey w) audits)
          options).exitCode := by
  change (Completion.after _ (match ((options.auditor w root).survey w).audits with
    | .error problem => Completion.failure w problem.message
    | .ok audits => deliver w (options.report _ audits) options)).exitCode = _
  rw [Completion.after_exitCode]
  cases ((options.auditor w root).survey w).audits with
  | error problem => rfl
  | ok audits => rfl

theorem auditRoot_exitCode_of_error {problem : SearchProblem}
    (h : headers w root options.recursive = .error problem) :
    (auditRoot w root options).exitCode = 1 := by
  have hheaders : (options.auditor w root).headers w = .error problem := h
  rw [auditRoot_exitCode, Auditor.survey, hheaders]

theorem deliver_exitCode {report : Report} (h : ∀ path, given? options.output = some path →
      (FileSystem.writeText w .wanted path report.text).2 = .ok ()) :
    (deliver w report options).exitCode =
      if options.failOnInvalid = true ∧ report.allValid = false then 1 else 0 := by
  have hcode : (if options.failOnInvalid && !report.allValid then 1 else 0) =
      if options.failOnInvalid = true ∧ report.allValid = false then 1 else 0 := by simp
  rw [deliver]
  cases ho : given? options.output with
  | none => exact hcode
  | some path =>
    have hw := h path ho
    cases he : FileSystem.writeText w .wanted path report.text with
    | mk w' result =>
      rw [he] at hw
      obtain rfl : result = .ok () := hw
      simp only [he]
      exact hcode

/-- Once the report is delivered, only its verdict and one option decide the exit code. -/
theorem auditRoot_exitCode_of_survey (hw : options.ReportWritten w root)
    (ha : ((options.auditor w root).survey w).audits = .ok audits) :
    (auditRoot w root options).exitCode =
      if options.failOnInvalid = true ∧ (Summary.ofAudits audits).passed = false then 1 else 0 := by
  rw [auditRoot_exitCode]
  simp only [ha]
  exact deliver_exitCode fun path ho => hw path audits ho ha

theorem scanRoot_eq_ok {directory : Option String}
    (h : scanRoot w directory = .ok root) : FileSystem.kindAt? w root = some .directory := by
  unfold scanRoot at h
  repeat' split at h
  all_goals cases h
  assumption

theorem execute_eq_auditRoot {directory : Option String}
    (ht : given? options.templateFile = none) (hr : scanRoot w directory = .ok root) :
    execute w directory options = auditRoot w root options := by
  rw [execute, ht, hr]

/-- A run on a directory that can be searched fails exactly if it is asked to and some header in the
directory offends. A search can be refused only where the path of the directory reads as a URL, and
then the run fails. -/
theorem execute_fails_iff_offence {w : Workspace} {directory : Option String}
    (ht : given? options.templateFile = none) (hr : scanRoot w directory = .ok root)
    (hw : options.ReportWritten w root) :
    (∀ files, headers w root options.recursive = .ok files →
      ((execute w directory options).exitCode = 1 ↔ options.FindsOffence w files) ∧
      ((execute w directory options).exitCode = 0 ↔ ¬ options.FindsOffence w files)) ∧
    ∀ problem, headers w root options.recursive = .error problem →
      FileUrl.opening.toList <+: root.toList ∧ (execute w directory options).exitCode = 1 := by
  rw [execute_eq_auditRoot ht hr]
  constructor
  · intro files hfiles
    have hheaders : (options.auditor w root).headers w = .ok files := hfiles
    obtain ⟨audits, haudits⟩ : ∃ audits, ((options.auditor w root).survey w).audits = .ok audits :=
      ⟨_, Auditor.survey_audits hheaders⟩
    have hoffence : (options.failOnInvalid = true ∧
        (Summary.ofAudits audits).passed = false) ↔ options.FindsOffence w files := by
      apply and_congr_right
      intro _
      rw [← Bool.not_eq_true, Auditor.survey_passed_iff hheaders haudits, Classical.not_not]
      rfl
    rw [auditRoot_exitCode_of_survey hw haudits]
    by_cases ho : options.FindsOffence w files
    · rw [if_pos (hoffence.2 ho)]
      exact ⟨iff_of_true rfl ho, iff_of_false (by decide) (not_not_intro ho)⟩
    · rw [if_neg fun h => ho (hoffence.1 h)]
      exact ⟨iff_of_false (by decide) ho, iff_of_true rfl ho⟩
  · intro problem hproblem
    obtain ⟨e, hentry, _⟩ := Option.map_eq_some_iff.1 (scanRoot_eq_ok hr)
    exact ⟨Workspace.opening_prefix_of_headers_error hentry hproblem,
      auditRoot_exitCode_of_error hproblem⟩

theorem execute_fails_on_bare_member :
    let w := Workspace.oneHeader "UPROPERTY()\nFGuid Id;"
    let options : Options := { failOnInvalid := true }
    given? options.templateFile = none ∧ scanRoot w (some ".") = .ok "." ∧
      options.ReportWritten w "." ∧ (execute w (some ".") options).exitCode = 1 := by
  intro w options
  have hr : scanRoot w (some ".") = .ok "." := rfl
  have hw : options.ReportWritten w "." := by
    intro _ _ ho
    cases ho
  have hfiles : headers w "." options.recursive = .ok ["A.h"] := Workspace.oneHeader_headers _
  refine ⟨rfl, hr, hw, ?_⟩
  obtain ⟨hfails, _⟩ := (execute_fails_iff_offence rfl hr hw).1 ["A.h"] hfiles
  refine hfails.2 ⟨rfl, "A.h", List.mem_cons_self, _, Workspace.oneHeader_read _, ?_⟩
  refine ⟨0, 1, ⟨"Id".toList, none⟩, "UnknownStruct", ?_, by decide, ?_, nofun, ?_⟩
  · exact ⟨by decide, by decide, by decide, by decide, fun k _ _ => by omega⟩
  · refine .inr ⟨rfl, fun k hk => ?_⟩
    obtain rfl : k = 0 := by omega
    decide
  · intro key _
    exact List.not_mem_nil

/-- A directory that exists can have a path that reads as a broken URL. The run fails then, although
no option asks for it and no header offends. -/
theorem execute_fails_on_broken_url :
    let w : Workspace := {
      disk := (Disk.empty.makeDirectories [⟨"%", by decide⟩, ⟨"file:", by decide⟩]).1
      current := [] }
    let options : Options := {}
    given? options.templateFile = none ∧ scanRoot w (some "file:///%") = .ok "file:///%" ∧
      options.ReportWritten w "file:///%" ∧ options.failOnInvalid = false ∧
      (execute w (some "file:///%") options).exitCode = 1 := by
  intro w options
  have hr : scanRoot w (some "file:///%") = .ok "file:///%" := rfl
  have hpath : searchPath "file:///%" = .error .badEscape := by decide
  have herror : headers w "file:///%" options.recursive = .error (.badUrl .badEscape) := by
    simp only [headers, Workspace.search_eq, Workspace.search, Workspace.searchStart, hpath,
      Except.map]
  have hw : options.ReportWritten w "file:///%" := by
    intro _ _ ho
    cases ho
  refine ⟨rfl, hr, hw, rfl, ?_⟩
  rw [execute_eq_auditRoot rfl hr]
  exact auditRoot_exitCode_of_error herror

end GuidAudit
