import GuidAudit.Proofs.UnusedKeys

namespace GuidAudit

variable {σ : Type} [FileSystem σ] {a : Auditor} {w : σ} {config : AuditConfig} {i : Inspection}
variable {key : UnitText}

/-- A call on an auditor, with the files as they are at that time. -/
inductive Call (σ : Type) where
  | survey (w : σ)
  | inspect (w : σ) (file : String)

/-- An auditor beside what its calls gave: the inspections since the last survey began, or all of
them before the first one, and the audits that this survey returned, none if it failed. -/
structure Session where
  auditor : Auditor
  inspections : List Inspection := []
  returned : List FileAudit := []

namespace Session

def start (config : AuditConfig) : Session where
  auditor := { config }

def perform (s : Session) : Call σ → Session
  | .survey w =>
    { auditor := (s.auditor.survey w).auditor
      inspections := ((s.auditor.headers w).toOption.getD []).map (s.auditor.inspect w)
      returned := (s.auditor.survey w).audits.toOption.getD [] }
  | .inspect w file =>
    { s with
      auditor := s.auditor.record (s.auditor.inspect w file)
      inspections := s.inspections ++ [s.auditor.inspect w file] }

def run (s : Session) (calls : List (Call σ)) : Session := calls.foldl perform s

end Session

namespace Inspection

/-- Whether the file could be read. -/
def succeeded (i : Inspection) : Bool := i.audit?.isSome

def failed (i : Inspection) : Bool := i.audit?.isNone

theorem mem_matched_iff : key ∈ i.matched ↔
    ∃ audit, i.audit? = some audit ∧ ∃ waiver ∈ audit.suppressed, waiver.key = key := by
  rw [matched, audit?]
  cases i.result with
  | error problem => simp [Except.toOption]
  | ok audit => simp [Except.toOption]

end Inspection

namespace Auditor

theorem record_scanned (a : Auditor) (i : Inspection) :
    (a.record i).stats.scanned = a.stats.scanned + if i.succeeded then 1 else 0 := by
  rw [record, Inspection.succeeded, Inspection.audit?]
  cases i.result <;> rfl

theorem record_skipped (a : Auditor) (i : Inspection) :
    (a.record i).stats.skipped = a.stats.skipped + if i.failed then 1 else 0 := by
  rw [record, Inspection.failed, Inspection.audit?]
  cases i.result <;> rfl

theorem record_withProperties (a : Auditor) (i : Inspection) :
    (a.record i).stats.withProperties = a.stats.withProperties := by
  rw [record]
  cases i.result <;> rfl

theorem foldl_record_scanned (a : Auditor) (is : List Inspection) :
    (is.foldl record a).stats.scanned = a.stats.scanned + is.countP Inspection.succeeded := by
  induction is generalizing a with
  | nil => rfl
  | cons i is ih =>
    rw [List.foldl_cons, ih, record_scanned, List.countP_cons]
    omega

theorem foldl_record_skipped (a : Auditor) (is : List Inspection) :
    (is.foldl record a).stats.skipped = a.stats.skipped + is.countP Inspection.failed := by
  induction is generalizing a with
  | nil => rfl
  | cons i is ih =>
    rw [List.foldl_cons, ih, record_skipped, List.countP_cons]
    omega

theorem survey_scanned {files : List String} (h : a.headers w = .ok files) :
    (a.survey w).auditor.stats.scanned =
      (files.map (a.inspect w)).countP Inspection.succeeded := by
  rw [survey, h]
  exact (foldl_record_scanned _ _).trans (Nat.zero_add _)

theorem survey_skipped {files : List String} (h : a.headers w = .ok files) :
    (a.survey w).auditor.stats.skipped = (files.map (a.inspect w)).countP Inspection.failed := by
  rw [survey, h]
  exact (foldl_record_skipped _ _).trans (Nat.zero_add _)

theorem length_survey_audits_le {files : List String} {audits : List FileAudit}
    (hf : a.headers w = .ok files) (h : (a.survey w).audits = .ok audits) :
    audits.length ≤ (files.map (a.inspect w)).countP Inspection.succeeded := by
  rw [survey_audits hf] at h
  cases h
  apply Nat.le_trans (List.length_filter_le _ _)
  rw [List.length_filterMap_eq_countP]
  exact Nat.le_refl _

/-- A survey forgets all that was before it. -/
theorem survey_eq_of_config {b : Auditor} (h : a.config = b.config) (w : σ) :
    a.survey w = b.survey w := by
  have hheaders : a.headers w = b.headers w := by rw [headers, headers, h]
  have hinspect : a.inspect w = b.inspect w := by
    funext file
    rw [inspect, inspect, h]
  have hfresh : a.fresh = b.fresh := by rw [fresh, fresh, h]
  simp only [survey, surveyFiles, hheaders, hinspect, hfresh]

theorem mem_unused_iff : (∃ u ∈ a.unused, u.key = key) ↔
    key ∈ a.config.keys ∧ isComment key = false ∧ key ∉ a.matched := by
  rw [unused, KeySet.unused]
  simp only [List.mem_map, List.mem_filter, exists_exists_and_eq_and, exists_eq_right,
    Bool.and_eq_true, Bool.not_eq_true', decide_eq_true_eq]
  rfl

theorem map_key_unused (a : Auditor) : (a.unused.map (·.key)).Sublist a.config.keys.toList := by
  rw [unused, KeySet.unused, List.map_map]
  exact (List.map_id _).symm ▸ List.filter_sublist

end Auditor

/-- What an auditor remembers agrees with what its calls gave. -/
structure Session.Agrees (config : AuditConfig) (s : Session) : Prop where
  config_eq : s.auditor.config = config
  scanned : s.auditor.stats.scanned = s.inspections.countP Inspection.succeeded
  skipped : s.auditor.stats.skipped = s.inspections.countP Inspection.failed
  withProperties : s.auditor.stats.withProperties = s.returned.length
  returned_le : s.returned.length ≤ s.inspections.countP Inspection.succeeded
  matched : ∀ key, key ∈ s.auditor.matched ↔ ∃ i ∈ s.inspections, key ∈ i.matched
  matched_mem : ∀ i ∈ s.inspections, ∀ key ∈ i.matched, key ∈ config.keys

namespace Session

variable {s : Session}

theorem start_agrees (config : AuditConfig) : (start config).Agrees config where
  config_eq := rfl
  scanned := rfl
  skipped := rfl
  withProperties := rfl
  returned_le := Nat.le_refl 0
  matched := by
    intro key
    constructor
    · intro h
      exact absurd h List.not_mem_nil
    · intro h
      obtain ⟨i, hi, _⟩ := h
      exact absurd hi List.not_mem_nil
  matched_mem := by
    intro i hi
    exact absurd hi List.not_mem_nil

theorem Agrees.perform_inspect (h : s.Agrees config) (w : σ) (file : String) :
    (s.perform (.inspect w file)).Agrees config where
  config_eq := (Auditor.record_config _ _).trans h.config_eq
  scanned := by
    rw [perform, Auditor.record_scanned, List.countP_append, List.countP_singleton, h.scanned]
  skipped := by
    rw [perform, Auditor.record_skipped, List.countP_append, List.countP_singleton, h.skipped]
  withProperties := (Auditor.record_withProperties _ _).trans h.withProperties
  returned_le := by
    rw [perform, List.countP_append]
    exact Nat.le_add_right_of_le h.returned_le
  matched := by
    intro key
    rw [perform, Auditor.record_matched, KeySet.mem_insertAll, h.matched]
    simp only [List.mem_append, List.mem_singleton, or_and_right, exists_or, exists_eq_left]
  matched_mem := by
    intro i hi key hk
    rcases List.mem_append.1 hi with hi | hi
    · exact h.matched_mem i hi key hk
    · obtain rfl := List.mem_singleton.1 hi
      rw [← h.config_eq]
      exact inspect_matched_subset hk

/-- A survey makes its agreement anew, from what it inspects itself. -/
theorem perform_survey_agrees (hc : s.auditor.config = config) (w : σ) :
    (s.perform (.survey w)).Agrees config := by
  cases hf : s.auditor.headers w with
  | error problem =>
    have hp : s.perform (.survey w) = start config := by
      rw [perform, Auditor.survey, hf, ← hc]
      rfl
    rw [hp]
    exact start_agrees config
  | ok files =>
    obtain ⟨audits, ha⟩ : ∃ audits, (s.auditor.survey w).audits = .ok audits :=
      ⟨_, Auditor.survey_audits hf⟩
    have hp : s.perform (.survey w) =
        { auditor := (s.auditor.survey w).auditor
          inspections := files.map (s.auditor.inspect w)
          returned := audits } := by
      rw [perform, hf, ha]
      rfl
    rw [hp]
    exact {
      config_eq := (Auditor.survey_config _ _).trans hc
      scanned := Auditor.survey_scanned hf
      skipped := Auditor.survey_skipped hf
      withProperties := Auditor.survey_withProperties ha
      returned_le := Auditor.length_survey_audits_le hf ha
      matched := by
        intro key
        rw [Auditor.mem_survey_matched hf]
        simp only [List.mem_map, exists_exists_and_eq_and]
      matched_mem := by
        intro i hi key hk
        obtain ⟨file, _, rfl⟩ := List.mem_map.1 hi
        rw [← hc]
        exact inspect_matched_subset hk }

theorem Agrees.perform (h : s.Agrees config) (call : Call σ) : (s.perform call).Agrees config := by
  cases call with
  | survey w => exact perform_survey_agrees h.config_eq w
  | inspect w file => exact h.perform_inspect w file

theorem Agrees.run (h : s.Agrees config) (calls : List (Call σ)) : (s.run calls).Agrees config := by
  induction calls generalizing s with
  | nil => exact h
  | cons call calls ih => exact ih (h.perform call)

end Session

/-- After any calls, the counters and the matched keys are those of the inspections since the last
survey began; the unused keys are the rest of the keys that are no comments; and nothing of all
this bears on the next survey. -/
theorem session_state_matches_history (config : AuditConfig) (calls : List (Call σ)) :
    let s := (Session.start config).run calls
    s.auditor.stats.scanned = s.inspections.countP (fun i => i.audit?.isSome) ∧
    s.auditor.stats.skipped = s.inspections.countP (fun i => i.audit?.isNone) ∧
    s.auditor.stats.withProperties = s.returned.length ∧
    s.auditor.stats.withProperties ≤ s.auditor.stats.scanned ∧
    (∀ key, key ∈ s.auditor.matched ↔ ∃ i ∈ s.inspections, ∃ audit, i.audit? = some audit ∧
      ∃ waiver ∈ audit.suppressed, waiver.key = key) ∧
    (∀ key ∈ s.auditor.matched, key ∈ config.keys) ∧
    (∀ key ∈ config.keys,
      (∃ u ∈ s.auditor.unused, u.key = key) ∨ key ∈ s.auditor.matched ∨ isComment key = true) ∧
    (∀ u ∈ s.auditor.unused, u.key ∉ s.auditor.matched ∧ isComment u.key = false) ∧
    (s.auditor.unused.map (·.key)).Sublist config.keys.toList ∧
    ∀ w : σ, s.auditor.survey w = Auditor.survey { config } w := by
  intro s
  have h : s.Agrees config := (Session.start_agrees config).run calls
  have hmatched (key : UnitText) : key ∈ s.auditor.matched ↔ ∃ i ∈ s.inspections, ∃ audit,
      i.audit? = some audit ∧ ∃ waiver ∈ audit.suppressed, waiver.key = key := by
    simp only [h.matched, Inspection.mem_matched_iff]
  have hle : s.auditor.stats.withProperties ≤ s.auditor.stats.scanned := by
    rw [h.withProperties, h.scanned]
    exact h.returned_le
  refine ⟨h.scanned, h.skipped, h.withProperties, hle, hmatched, ?_, ?_, ?_, ?_, ?_⟩
  · intro key hk
    obtain ⟨i, hi, hk⟩ := (h.matched key).1 hk
    exact h.matched_mem i hi key hk
  · intro key hk
    rw [Auditor.mem_unused_iff, h.config_eq]
    cases isComment key with
    | true => exact .inr (.inr rfl)
    | false =>
      by_cases hm : key ∈ s.auditor.matched
      · exact .inr (.inl hm)
      · exact .inl ⟨hk, rfl, hm⟩
  · intro u hu
    obtain ⟨_, hcomment, hm⟩ := Auditor.mem_unused_iff.1 ⟨u, hu, rfl⟩
    exact ⟨hm, hcomment⟩
  · rw [← h.config_eq]
    exact Auditor.map_key_unused s.auditor
  · intro w
    exact Auditor.survey_eq_of_config h.config_eq w

end GuidAudit
