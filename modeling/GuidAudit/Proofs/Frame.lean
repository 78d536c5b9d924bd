import GuidAudit.Proofs.Delivery
import GuidAudit.Proofs.RegularFiles

namespace GuidAudit

/-- A run that fails says why, and prints nothing on standard output. -/
structure Completion.Fails {σ : Type} (c : Completion σ) : Prop where
  exitCode : c.exitCode = 1
  error : ∃ text, Message.error text ∈ c.messages
  silent : ∀ coloured, c.printed .out coloured = ""

namespace Completion

variable {σ : Type} {c : Completion σ} {earlier : List Message}

@[simp] theorem after_workspace (earlier : List Message) (c : Completion σ) :
    (c.after earlier).workspace = c.workspace := rfl

@[simp] theorem failure_workspace (w : σ) (text : String) : (failure w text).workspace = w := rfl

@[simp] theorem failure_messages (w : σ) (text : String) :
    (failure w text).messages = [.error text] := rfl

theorem fails_failure (w : σ) (text : String) : (failure w text).Fails where
  exitCode := rfl
  error := ⟨text, List.mem_cons_self⟩
  silent := fun _ => rfl

theorem Fails.after (h : c.Fails) (herr : ∀ m ∈ earlier, m.channel = .err) :
    (c.after earlier).Fails where
  exitCode := h.exitCode
  error := by
    obtain ⟨text, ht⟩ := h.error
    exact ⟨text, List.mem_append_right earlier ht⟩
  silent := by
    intro coloured
    rw [printed_after_of_ne, h.silent]
    intro m hm
    rw [herr m hm]
    decide

end Completion

variable {σ : Type} [FileSystem σ] {w : σ} {root path : String} {options : Options}
variable {report : Report} {directory : Option String} {problem : SearchProblem}
variable {audits : List FileAudit}

theorem createTemplate_eq (w : σ) (path : String) :
    createTemplate w path =
      match (Suppressions.create w path).2 with
      | .ok () => ⟨0, (Suppressions.create w path).1,
          [.success ("Created default suppression file: " ++ path)]⟩
      | .error error => .failure (Suppressions.create w path).1 error.message := by
  unfold createTemplate
  split
  · rename_i hcreate
    rw [hcreate]
  · rename_i hcreate
    rw [hcreate]

theorem createTemplate_workspace (w : σ) (path : String) :
    (createTemplate w path).workspace = (Suppressions.create w path).1 := by
  rw [createTemplate_eq]
  split
  · simp only
  · rw [Completion.failure_workspace]

/-- What is printed depends on nothing but whether the file can be written. -/
theorem createTemplate_messages_eq {w' : σ}
    (h : (Suppressions.create w' path).2 = (Suppressions.create w path).2) :
    (createTemplate w' path).messages = (createTemplate w path).messages := by
  rw [createTemplate_eq, createTemplate_eq, h]
  cases (Suppressions.create w path).2 with
  | ok => rfl
  | error error => rw [Completion.failure_messages, Completion.failure_messages]

theorem createTemplate_exitCode_cases (w : σ) (path : String) :
    (createTemplate w path).exitCode = 0 ∧ (Suppressions.create w path).2 = .ok () ∨
      (createTemplate w path).exitCode = 1 ∧ (Suppressions.create w path).2 ≠ .ok () := by
  rw [createTemplate_eq]
  split
  · rename_i hok
    exact .inl ⟨rfl, hok⟩
  · rename_i herror
    exact .inr ⟨rfl, by simp [herror]⟩

theorem deliver_of_none (h : given? options.output = none) :
    deliver w report options = ⟨if options.failOnInvalid && !report.allValid then 1 else 0, w,
      [.plain report.text.shown]⟩ := by
  rw [deliver, h]

theorem deliver_of_some (h : given? options.output = some path) :
    deliver w report options =
      match (FileSystem.writeText w .wanted path report.text).2 with
      | .ok () => ⟨if options.failOnInvalid && !report.allValid then 1 else 0,
          (FileSystem.writeText w .wanted path report.text).1,
          [.note ("Report written to: " ++ path)]⟩
      | .error error =>
        .failure (FileSystem.writeText w .wanted path report.text).1 error.message := by
  unfold deliver
  rw [h]
  dsimp only
  split
  · rename_i hwrite
    rw [hwrite]
  · rename_i hwrite
    rw [hwrite]

theorem deliver_workspace (h : given? options.output = some path) :
    (deliver w report options).workspace = (FileSystem.writeText w .wanted path report.text).1 := by
  rw [deliver_of_some h]
  split
  · simp only
  · rw [Completion.failure_workspace]

theorem deliver_fails {error : DiskError} (h : given? options.output = some path)
    (hwrite : (FileSystem.writeText w .wanted path report.text).2 = .error error) :
    (deliver w report options).Fails := by
  rw [deliver_of_some h, hwrite]
  exact Completion.fails_failure _ _

theorem deliver_exitCode_cases (w : σ) (report : Report) (options : Options) :
    (deliver w report options).exitCode = 0 ∨ (deliver w report options).exitCode = 1 := by
  by_cases h : ∀ path, given? options.output = some path →
      (FileSystem.writeText w .wanted path report.text).2 = .ok ()
  · rw [deliver_exitCode h]
    split
    · exact .inr rfl
    · exact .inl rfl
  · simp only [not_forall] at h
    obtain ⟨path, ho, hw⟩ := h
    rw [deliver_of_some ho]
    split
    · rename_i hok
      exact absurd hok hw
    · exact .inr rfl

theorem auditRoot_exitCode_cases (w : σ) (root : String) (options : Options) :
    (auditRoot w root options).exitCode = 0 ∨ (auditRoot w root options).exitCode = 1 := by
  rw [auditRoot_exitCode]
  split
  · exact .inr rfl
  · exact deliver_exitCode_cases _ _ _

theorem execute_of_template (h : given? options.templateFile = some path) :
    execute w directory options = createTemplate w path := by
  rw [execute, h]

theorem execute_of_scanRoot_error {problem : RootProblem}
    (ht : given? options.templateFile = none) (hr : scanRoot w directory = .error problem) :
    execute w directory options = .failure w problem.message := by
  rw [execute, ht, hr]

theorem execute_exitCode_cases (w : σ) (directory : Option String) (options : Options) :
    (execute w directory options).exitCode = 0 ∨ (execute w directory options).exitCode = 1 := by
  unfold execute
  split
  · rename_i path _
    exact (createTemplate_exitCode_cases w path).imp And.left And.left
  · split
    · exact .inr rfl
    · exact auditRoot_exitCode_cases _ _ _

theorem scanRoot_eq_ok_iff :
    scanRoot w directory = .ok root ↔
      given? directory = some root ∧ FileSystem.kindAt? w root = some .directory := by
  constructor
  · intro h
    unfold scanRoot at h
    split at h
    · cases h
    · rename_i path hpath
      split at h
      · cases h
      · cases h
      · rename_i hentry
        cases h
        exact ⟨hpath, hentry⟩
  · intro h
    rw [scanRoot, h.1]
    simp only [h.2]

theorem exists_scanRoot_error
    (h : ∀ root, given? directory = some root → FileSystem.kindAt? w root ≠ some .directory) :
    ∃ problem, scanRoot w directory = .error problem := by
  cases hr : scanRoot w directory with
  | error problem => exact ⟨problem, rfl⟩
  | ok root =>
    obtain ⟨hroot, hentry⟩ := scanRoot_eq_ok_iff.1 hr
    exact absurd hentry (h root hroot)

theorem auditRoot_of_search_error
    (h : ((options.auditor w root).survey w).audits = .error problem) :
    (auditRoot w root options).Fails ∧ (auditRoot w root options).workspace = w := by
  rw [auditRoot_of_error h]
  exact ⟨(Completion.fails_failure w _).after fun m hm => Options.warnings_channel hm, rfl⟩

/-- A run changes no file if it is not asked for one. -/
theorem auditRoot_workspace_of_none (h : given? options.output = none) :
    (auditRoot w root options).workspace = w := by
  cases ha : ((options.auditor w root).survey w).audits with
  | error problem => exact (auditRoot_of_search_error ha).2
  | ok audits => rw [auditRoot_of_ok ha, Completion.after_workspace, deliver_of_none h]

theorem auditRoot_printed (h : given? options.output = none)
    (ha : ((options.auditor w root).survey w).audits = .ok audits) (coloured : Bool) :
    (auditRoot w root options).printed .out coloured =
      (options.report ((options.auditor w root).survey w) audits).text.shown ++ "\n" := by
  rw [auditRoot_of_ok ha, Completion.printed_after_of_ne, deliver_of_none h]
  · rfl
  · intro m hm
    rw [Options.warnings_channel hm]
    decide

theorem auditRoot_workspace_of_some (h : given? options.output = some path)
    (ha : ((options.auditor w root).survey w).audits = .ok audits) :
    (auditRoot w root options).workspace = (FileSystem.writeText w .wanted path
      (options.report ((options.auditor w root).survey w) audits).text).1 := by
  rw [auditRoot_of_ok ha, Completion.after_workspace, deliver_workspace h]

theorem auditRoot_fails {error : DiskError} (h : given? options.output = some path)
    (ha : ((options.auditor w root).survey w).audits = .ok audits)
    (herror : (FileSystem.writeText w .wanted path
      (options.report ((options.auditor w root).survey w) audits).text).2 = .error error) :
    (auditRoot w root options).Fails := by
  rw [auditRoot_of_ok ha]
  exact (deliver_fails h herror).after fun m hm => Options.warnings_channel hm

section Frame

variable [RegularFiles σ]

open RegularFiles

/-- No file has changed. -/
def Unchanged (w w' : σ) : Prop := ∀ f : File σ, bytes? w' f = bytes? w f

/-- No file has changed but the one that a path leads to. -/
def ChangedOnlyAt (path : String) (w w' : σ) : Prop :=
  ∀ f : File σ, fileAt? w' path ≠ some f → bytes? w' f = bytes? w f

theorem changedOnlyAt_writeText (w : σ) (blame : Blame) (path : String) (text : UnitText) :
    ChangedOnlyAt path w (FileSystem.writeText w blame path text).1 :=
  fun _ h => bytes?_write_of_ne h

/-- A run changes no other file than the one it is asked for. -/
theorem auditRoot_changedOnlyAt (h : given? options.output = some path) :
    ChangedOnlyAt path w (auditRoot w root options).workspace := by
  cases ha : ((options.auditor w root).survey w).audits with
  | error problem =>
    rw [(auditRoot_of_search_error ha).2]
    exact fun _ _ => rfl
  | ok audits =>
    rw [auditRoot_workspace_of_some h ha]
    exact changedOnlyAt_writeText w .wanted path _

end Frame

/-- Every run ends with exit code 0 or 1. A run that creates a template does nothing else. A run
without a directory to audit fails before it reads any file. Any other run changes no file but the
one that it is asked for. It fails and changes nothing if the directory cannot be searched. It fails
as well if its report cannot be written, and changes nothing if the file cannot be opened. Else it
hands over the report. -/
theorem execute_ends_in_order {σ : Type} [FileSystem σ] [RegularFiles σ] (w : σ)
    (directory : Option String) (options : Options) :
    let c := execute w directory options
    (c.exitCode = 0 ∨ c.exitCode = 1) ∧
    -- A template is asked for: neither the directory nor any other option is looked at.
    (∀ path, given? options.templateFile = some path →
      (∀ directory' options', given? options'.templateFile = some path →
        execute w directory' options' = c ∧
        ∀ w' : σ, (Suppressions.create w' path).2 = (Suppressions.create w path).2 →
          (execute w' directory' options').messages = c.messages) ∧
      ChangedOnlyAt path w c.workspace ∧
      (c.exitCode = 0 ↔ (Suppressions.create w path).2 = .ok ())) ∧
    (given? options.templateFile = none →
      -- There is no directory to audit: no other file and no other option makes a difference.
      ((∀ root, given? directory = some root → FileSystem.kindAt? w root ≠ some .directory) →
        c.Fails ∧ c.workspace = w ∧
        ∀ (w' : σ) options', given? options'.templateFile = none →
          scanRoot w' directory = scanRoot w directory →
          (execute w' directory options').messages = c.messages) ∧
      ∀ root, given? directory = some root → FileSystem.kindAt? w root = some .directory →
        (given? options.output = none → c.workspace = w) ∧
        (∀ path, given? options.output = some path → ChangedOnlyAt path w c.workspace) ∧
        -- The directory cannot be searched.
        (∀ problem, headers w root options.recursive = .error problem →
          c.Fails ∧ c.workspace = w) ∧
        ∀ files, headers w root options.recursive = .ok files →
          ∃ audits, ((options.auditor w root).survey w).audits = .ok audits ∧
            let text := (options.report ((options.auditor w root).survey w) audits).text
            (given? options.output = none →
              ∀ coloured, c.printed .out coloured = text.shown ++ "\n") ∧
            ∀ path, given? options.output = some path →
              -- The report cannot be written.
              (∀ error, (FileSystem.writeText w .wanted path text).2 = .error error →
                c.Fails ∧ ∀ error', (FileSystem.openFile w .wanted path).2 = .error error' →
                  Unchanged w c.workspace) ∧
              ((FileSystem.writeText w .wanted path text).2 = .ok () →
                ∀ f, RegularFiles.fileAt? c.workspace path = some f →
                  RegularFiles.bytes? c.workspace f = some text.toUTF8)) := by
  intro c
  refine ⟨execute_exitCode_cases w directory options, ?_, fun ht => ⟨?_, ?_⟩⟩
  · intro path ht
    have hc : c = createTemplate w path := execute_of_template ht
    rw [hc, createTemplate_workspace]
    refine ⟨fun directory' options' ht' => ⟨execute_of_template ht', fun w' hw' => ?_⟩,
      changedOnlyAt_writeText w .reached path _, ?_⟩
    · rw [execute_of_template ht']
      exact createTemplate_messages_eq hw'
    · rcases createTemplate_exitCode_cases w path with ⟨hcode, hok⟩ | ⟨hcode, hfailed⟩
      · exact iff_of_true hcode hok
      · exact iff_of_false (by simp [hcode]) hfailed
  · intro hno
    obtain ⟨problem, hproblem⟩ := exists_scanRoot_error hno
    have hc : c = .failure w problem.message := execute_of_scanRoot_error ht hproblem
    rw [hc]
    refine ⟨Completion.fails_failure w _, rfl, fun w' options' ht' hr' => ?_⟩
    rw [execute_of_scanRoot_error ht' (hr'.trans hproblem)]
    rfl
  · intro root hroot hkind
    have hc : c = auditRoot w root options :=
      execute_eq_auditRoot ht (scanRoot_eq_ok_iff.2 ⟨hroot, hkind⟩)
    rw [hc]
    refine ⟨auditRoot_workspace_of_none, fun path ho => auditRoot_changedOnlyAt ho, ?_, ?_⟩
    · intro problem herror
      have hheaders : (options.auditor w root).headers w = .error problem := herror
      apply auditRoot_of_search_error
      rw [Auditor.survey, hheaders]
    · intro files hfiles
      have hheaders : (options.auditor w root).headers w = .ok files := hfiles
      have haudits := Auditor.survey_audits hheaders
      refine ⟨_, haudits, fun ho coloured => auditRoot_printed ho haudits coloured, ?_⟩
      intro path ho
      rw [auditRoot_workspace_of_some ho haudits]
      refine ⟨fun error herror => ⟨auditRoot_fails ho haudits herror, fun error' hopen f => ?_⟩, ?_⟩
      · exact RegularFiles.bytes?_write_of_openFile_error hopen f
      · exact fun hwritten f hf => RegularFiles.bytes?_write hwritten hf

/-- A report can replace the very header that it is about. -/
theorem execute_overwrites_scanned_header :
    let w := Workspace.oneHeader "UPROPERTY()\nFGuid Id;"
    let options : Options := { output := some "A.h" }
    let c := execute w (some ".") options
    (c.exitCode = 0 ∨ c.exitCode = 1) ∧ ∃ audits place,
      ((options.auditor w ".").survey w).audits = .ok audits ∧
      c.workspace.fileAt? "A.h" = some place ∧
      c.workspace.disk.bytesAt? place =
        some (options.report ((options.auditor w ".").survey w) audits).text.toUTF8 := by
  have hempty : (FileSystem.write (Workspace.oneHeader "UPROPERTY()\nFGuid Id;") .wanted
      "A.h" .empty).2 = .ok () := rfl
  intro w options c
  have hr : scanRoot w (some ".") = .ok "." := rfl
  have hfiles : headers w "." options.recursive = .ok ["A.h"] := Workspace.oneHeader_headers _
  obtain ⟨hcode, _, haudit⟩ := execute_ends_in_order w (some ".") options
  obtain ⟨_, _, _, hreport⟩ := (haudit rfl).2 "." rfl rfl
  obtain ⟨audits, haudits, _, houtput⟩ := hreport ["A.h"] hfiles
  have hwritten : (FileSystem.writeText w .wanted "A.h"
      (options.report ((options.auditor w ".").survey w) audits).text).2 = .ok () :=
    (Workspace.write_result rfl .wanted "A.h" _ .empty).trans hempty
  have hworkspace : c.workspace = (FileSystem.writeText w .wanted "A.h"
      (options.report ((options.auditor w ".").survey w) audits).text).1 := by
    rw [← auditRoot_workspace_of_some rfl haudits, ← execute_eq_auditRoot rfl hr]
  have hfile : c.workspace.fileAt? "A.h" = some (c.workspace.locate (.ofText "A.h")) := by
    rw [hworkspace]
    exact Workspace.fileAt?_eq_some_iff.2
      ⟨rfl, _, Workspace.read_eq_ok_iff.1 (Workspace.read_write hwritten)⟩
  exact ⟨hcode, audits, _, haudits, hfile, (houtput "A.h" rfl).2 hwritten _ hfile⟩

/-- A limit to the size of files plays no part in a search. -/
theorem headers_withLimit (w : Workspace) (limit : Option Nat) (root : String) (recursive : Bool) :
    headers { w with sizeLimit := limit } root recursive = headers w root recursive := rfl

theorem build_json_ne_empty (audits : List FileAudit) (unused : Option (List UnusedKey)) :
    (Report.build .json audits unused).text.toUTF8 ≠ ByteArray.empty := by
  intro h
  have hrender : (Record.report audits unused).render.toUTF8 = "".toUTF8 := by
    rw [← UnitText.toUTF8_ofString]
    exact h
  have htext := congrArg String.toList (String.toByteArray_inj.1 hrender)
  rw [Json.Value.render, String.toList_ofList] at htext
  exact List.cons_ne_nil _ _ htext

/-- Where the search is refused, a file that could be written does not hold a report. Where there is
no room for the report, the file that it should go to loses what it held. -/
theorem execute_leaves_no_report_on_broken_url :
    (let w : Workspace := {
        disk := (Disk.empty.makeDirectories [⟨"%", by decide⟩, ⟨"file:", by decide⟩]).1
        current := [] }
      let options : Options := { output := some "out.txt" }
      given? options.templateFile = none ∧ scanRoot w (some "file:///%") = .ok "file:///%" ∧
        (∀ text, (FileSystem.writeText w .wanted "out.txt" text).2 = .ok ()) ∧
        ∀ bytes, (execute w (some "file:///%") options).workspace.read "out.txt" ≠ .ok bytes) ∧
    let w : Workspace := { Workspace.oneHeader "old" with sizeLimit := some 0 }
    let options : Options := { output := some "A.h", format := .json }
    given? options.templateFile = none ∧ scanRoot w (some ".") = .ok "." ∧
      (execute w (some ".") options).Fails ∧ w.read "A.h" = .ok "old".toUTF8 ∧
      (execute w (some ".") options).workspace.read "A.h" = .ok .empty := by
  constructor
  · have hempty : (FileSystem.write ({
        disk := (Disk.empty.makeDirectories [⟨"%", by decide⟩, ⟨"file:", by decide⟩]).1
        current := [] } : Workspace) .wanted "out.txt" .empty).2 = .ok () := rfl
    intro w options
    have hr : scanRoot w (some "file:///%") = .ok "file:///%" := rfl
    have hpath : searchPath "file:///%" = .error .badEscape := by decide
    have haudits : ((options.auditor w "file:///%").survey w).audits =
        .error (.badUrl .badEscape) := by
      simp only [Auditor.survey, Auditor.headers, Options.auditor, headers, Workspace.search_eq,
        Workspace.search, Workspace.searchStart, hpath, Except.map]
    have hread : w.read "out.txt" = .error (.failed .noEntry (.openFile "out.txt")) := rfl
    refine ⟨rfl, hr, fun text => ?_, fun bytes hbytes => ?_⟩
    · exact (Workspace.write_result rfl .wanted "out.txt" _ .empty).trans hempty
    · rw [execute_eq_auditRoot rfl hr, (auditRoot_of_search_error haudits).2, hread] at hbytes
      cases hbytes
  · have hempty : (FileSystem.write ({ Workspace.oneHeader "old" with sizeLimit := some 0 } :
        Workspace) .wanted "A.h" .empty).2 = .ok () := rfl
    intro w options
    have hr : scanRoot w (some ".") = .ok "." := rfl
    have hlimit := headers_withLimit (Workspace.oneHeader "old") (some 0) "." true
    have hfiles : (options.auditor w ".").headers w = .ok ["A.h"] :=
      hlimit.trans (Workspace.oneHeader_headers "old")
    have haudits := Auditor.survey_audits hfiles
    have hstored (bytes : ByteArray) : w.stored bytes = .empty := ByteArray.extract_same
    obtain ⟨hread, hresult⟩ := Workspace.read_write_stored hempty
      (options.report ((options.auditor w ".").survey w) _).text.toUTF8
    refine ⟨rfl, hr, ?_, rfl, ?_⟩
    · rw [execute_eq_auditRoot rfl hr]
      cases herror : (FileSystem.writeText w .wanted "A.h"
        (options.report ((options.auditor w ".").survey w) _).text).2 with
      | error error => exact auditRoot_fails rfl haudits herror
      | ok =>
        have hfull := Workspace.stored_of_fits (hresult.1 herror)
        rw [hstored] at hfull
        exact absurd hfull.symm (build_json_ne_empty _ _)
    · rw [execute_eq_auditRoot rfl hr, auditRoot_workspace_of_some rfl haudits]
      exact hread.trans (congrArg Except.ok (hstored _))

end GuidAudit
