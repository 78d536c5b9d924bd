import GuidAudit.Proofs.Gate
import GuidAudit.Proofs.Writing

namespace GuidAudit

variable {σ : Type} [FileSystem σ] {w : σ} {root path : String} {options : Options}
variable {report : Report} {channel : Channel} {coloured : Bool} {audits : List FileAudit}

/-- All that a run prints on a channel. -/
def Completion.printed {σ : Type} (c : Completion σ) (channel : Channel) (coloured : Bool) :
    String :=
  String.join ((c.messages.filter fun m => m.channel = channel).map (Message.render coloured))

/-- Messages for the other channel do not show. -/
theorem Completion.printed_after_of_ne {σ : Type} {earlier : List Message} {c : Completion σ}
    (h : ∀ m ∈ earlier, m.channel ≠ channel) :
    (c.after earlier).printed channel coloured = c.printed channel coloured := by
  have hnone : earlier.filter (fun m => m.channel = channel) = [] := by
    apply List.filter_eq_nil_iff.2
    intro m hm
    simpa using h m hm
  simp only [printed, after, List.filter_append, hnone, List.nil_append]

theorem Suppressions.load_channel {file : Option String} {m : Message}
    (h : m ∈ (load w file).2) : m.channel = .err := by
  unfold load at h
  repeat' split at h
  all_goals simp at h
  all_goals
    rw [h]
    rfl

theorem Auditor.survey_warnings_channel {a : Auditor} {m : Message}
    (h : m ∈ (a.survey w).warnings) : m.channel = .err := by
  unfold survey at h
  split at h
  · cases h
  · obtain ⟨i, _, hi⟩ := List.mem_filterMap.1 h
    unfold Inspection.warning? at hi
    split at hi
    · cases hi
    · cases hi
      rfl

namespace Options

/-- The warnings of a run about its suppression file and the headers that it reads. -/
def warnings (options : Options) (w : σ) (root : String) : List Message :=
  (Suppressions.load w options.suppressionFile).2 ++
    ((options.auditor w root).survey w).warnings

theorem warnings_channel {m : Message} (h : m ∈ options.warnings w root) : m.channel = .err := by
  rcases List.mem_append.1 h with h | h
  · exact Suppressions.load_channel h
  · exact Auditor.survey_warnings_channel h

end Options

theorem auditRoot_eq (w : σ) (root : String) (options : Options) :
    auditRoot w root options = Completion.after (options.warnings w root)
      (match ((options.auditor w root).survey w).audits with
        | .error problem => .failure w problem.message
        | .ok audits =>
          deliver w (options.report ((options.auditor w root).survey w) audits) options) := rfl

theorem auditRoot_of_ok (h : ((options.auditor w root).survey w).audits = .ok audits) :
    auditRoot w root options =
      (deliver w (options.report ((options.auditor w root).survey w) audits) options).after
        (options.warnings w root) := by
  rw [auditRoot_eq, h]

theorem auditRoot_of_error {problem : SearchProblem}
    (h : ((options.auditor w root).survey w).audits = .error problem) :
    auditRoot w root options =
      (Completion.failure w problem.message).after (options.warnings w root) := by
  rw [auditRoot_eq, h]

/-- The report is handed over as it is: printed as one line more, or written to the file that is
asked for. -/
def Completion.HandsOver (c : Completion Workspace) (w : Workspace) (output : Option String)
    (text : UnitText) : Prop :=
  match given? output with
  | none => c.workspace = w ∧ ∀ coloured, c.printed .out coloured = text.shown ++ "\n"
  | some path => c.workspace.read path = .ok text.toUTF8

theorem Completion.HandsOver.after {w : Workspace} {c : Completion Workspace}
    {output : Option String} {text : UnitText} {earlier : List Message}
    (h : c.HandsOver w output text) (herr : ∀ m ∈ earlier, m.channel = .err) :
    (c.after earlier).HandsOver w output text := by
  unfold HandsOver at h ⊢
  split at h
  · refine ⟨h.1, fun coloured => ?_⟩
    rw [printed_after_of_ne, h.2]
    intro m hm
    rw [herr m hm]
    decide
  · exact h

theorem deliver_handsOver {w : Workspace} (h : ∀ path, given? options.output = some path →
      (FileSystem.writeText w .wanted path report.text).2 = .ok ()) :
    (deliver w report options).HandsOver w options.output report.text := by
  rw [deliver, Completion.HandsOver]
  cases ho : given? options.output with
  | none => exact ⟨rfl, fun coloured => rfl⟩
  | some path =>
    have hwritten : (FileSystem.write w .wanted path report.text.toUTF8).2 = .ok () := h path ho
    have hread := Workspace.read_write hwritten
    simp only [FileSystem.writeText]
    cases he : FileSystem.write w .wanted path report.text.toUTF8 with
    | mk w' result =>
      rw [he] at hwritten hread
      obtain rfl : result = .ok () := hwritten
      exact hread

/-- A run whose report can be written hands over the report in the format and with the sections
that are asked for. -/
theorem auditRoot_handsOver {w : Workspace} (hw : options.ReportWritten w root)
    (ha : ((options.auditor w root).survey w).audits = .ok audits) :
    (auditRoot w root options).HandsOver w options.output
      (options.report ((options.auditor w root).survey w) audits).text := by
  rw [auditRoot_of_ok ha]
  apply Completion.HandsOver.after
  · exact deliver_handsOver fun path ho => hw path audits ho ha
  · exact fun m hm => Options.warnings_channel hm

end GuidAudit
