import Mathlib.Data.List.Basic
import GuidAudit.Audit
import GuidAudit.Proofs.KeyScope
import GuidAudit.Verdict

namespace GuidAudit

variable {p : Property} {keys keys' : KeySet} {file : String} {found : List Property}

namespace Property

theorem hasAcceptedInitializer_eq_false_iff : p.hasAcceptedInitializer = false ↔
    ∀ text, p.initializer = some text → text ≠ "FGuid()" ∧ text ≠ "FGuid::NewGuid()" := by
  rw [hasAcceptedInitializer]
  cases p.initializer with
  | none => simp
  | some text => simp [acceptedInitializers]

theorem verdict_congr (h : p.suppressingKey? keys = p.suppressingKey? keys') :
    p.verdict keys = p.verdict keys' := by
  rw [verdict, verdict, h]

theorem verdict_eq_suppressed_iff {key : String} :
    p.verdict keys = .suppressed key ↔ p.suppressingKey? keys = some key := by
  rw [verdict]
  cases p.suppressingKey? keys with
  | none => cases p.hasAcceptedInitializer <;> simp
  | some k => simp

theorem verdict_eq_invalid_iff : (∃ reason, p.verdict keys = .invalid reason) ↔
    p.suppressingKey? keys = none ∧ p.hasAcceptedInitializer = false := by
  rw [verdict]
  cases p.suppressingKey? keys with
  | none => cases p.hasAcceptedInitializer <;> simp
  | some k => simp

theorem violation?_isSome_iff : (p.violation? keys).isSome = true ↔
    p.suppressingKey? keys = none ∧ p.hasAcceptedInitializer = false := by
  rw [← verdict_eq_invalid_iff, violation?]
  cases p.verdict keys <;> simp

theorem waiver?_eq_some_iff {waiver : Waiver} : p.waiver? keys = some waiver ↔
    waiver.property = p ∧ p.suppressingKey? keys = some waiver.key := by
  obtain ⟨q, key⟩ := waiver
  rw [← verdict_eq_suppressed_iff, waiver?]
  cases p.verdict keys <;> simp [eq_comm]

end Property

theorem auditProperties_congr
    (h : ∀ p ∈ found, p.suppressingKey? keys = p.suppressingKey? keys') :
    auditProperties file found keys = auditProperties file found keys' := by
  have hv : ∀ p ∈ found, p.verdict keys = p.verdict keys' := fun p hp =>
    Property.verdict_congr (h p hp)
  simp only [auditProperties, FileAudit.mk.injEq, true_and]
  refine ⟨?_, ?_, ?_⟩
  · apply List.filter_congr
    intro p hp
    rw [hv p hp]
  · apply List.filterMap_congr
    intro p hp
    rw [Property.violation?, Property.violation?, hv p hp]
  · apply List.filterMap_congr
    intro p hp
    rw [Property.waiver?, Property.waiver?, hv p hp]

theorem auditProperties_invalid_eq_nil_iff : (auditProperties file found keys).invalid = [] ↔
    ¬ ∃ p ∈ found, p.suppressingKey? keys = none ∧ p.hasAcceptedInitializer = false := by
  simp only [auditProperties, List.filterMap_eq_nil_iff, ← Property.violation?_isSome_iff,
    not_exists, not_and, Option.not_isSome_iff_eq_none]

theorem mem_suppressed_iff {waiver : Waiver} :
    waiver ∈ (auditProperties file found keys).suppressed ↔
      waiver.property ∈ found ∧ waiver.property.suppressingKey? keys = some waiver.key := by
  simp only [auditProperties, List.mem_filterMap, Property.waiver?_eq_some_iff]
  constructor
  · intro h
    obtain ⟨p, hp, rfl, hk⟩ := h
    exact ⟨hp, hk⟩
  · intro h
    obtain ⟨hp, hk⟩ := h
    exact ⟨waiver.property, hp, rfl, hk⟩

variable {σ : Type} [FileSystem σ] {a : Auditor} {w : σ} {files : List String}

theorem KeySet.insertAll_append (s : KeySet) (ks ks' : List UnitText) :
    s.insertAll (ks ++ ks') = (s.insertAll ks).insertAll ks' := by
  rw [insertAll, List.foldl_append]
  rfl

theorem inspect_matched_eq {content : String} (h : readHeader w file = .ok content) :
    (inspect w keys file).matched =
      (auditContent file content keys).suppressed.map fun waiver => ↑waiver.key := by
  simp only [inspect, h, Inspection.matched]

theorem mem_inspect_matched {content : String} {p : Property} {key : String}
    (h : readHeader w file = .ok content) (hp : p ∈ properties file (lines content.toList))
    (hk : p.suppressingKey? keys = some key) : ↑key ∈ (inspect w keys file).matched := by
  rw [inspect_matched_eq h]
  exact List.mem_map.2 ⟨⟨p, key⟩, mem_suppressed_iff.2 ⟨hp, hk⟩, rfl⟩

theorem inspect_matched_subset {key : UnitText}
    (h : key ∈ (inspect w keys file).matched) : key ∈ keys := by
  cases hr : readHeader w file with
  | error problem =>
    simp only [inspect, hr, Inspection.matched, List.not_mem_nil] at h
  | ok content =>
    rw [inspect_matched_eq hr] at h
    obtain ⟨waiver, hw, rfl⟩ := List.mem_map.1 h
    exact KeySet.mem_of_find? (mem_suppressed_iff.1 hw).2

/-- An inspection needs no more keys than those that it has matched. -/
theorem inspect_eq_of_subset (hsub : ∀ k ∈ keys', k ∈ keys)
    (hkeep : ∀ k ∈ (inspect w keys file).matched, k ∈ keys') :
    inspect w keys' file = inspect w keys file := by
  cases h : readHeader w file with
  | error problem => simp only [inspect, h]
  | ok content =>
    have hc : auditContent file content keys' = auditContent file content keys := by
      apply auditProperties_congr
      intro p hp
      apply KeySet.find?_eq_of_subset hsub
      intro k hk
      exact hkeep k (mem_inspect_matched h hp hk)
    simp only [inspect, h, hc]

namespace Auditor

@[simp] theorem record_config (a : Auditor) (i : Inspection) : (a.record i).config = a.config := by
  rw [record]
  cases i.result <;> rfl

theorem record_matched (a : Auditor) (i : Inspection) :
    (a.record i).matched = a.matched.insertAll i.matched := by
  rw [record, Inspection.matched]
  cases i.result <;> rfl

theorem foldl_record_config (a : Auditor) (is : List Inspection) :
    (is.foldl record a).config = a.config := by
  induction is generalizing a with
  | nil => rfl
  | cons i is ih => rw [List.foldl_cons, ih, record_config]

theorem foldl_record_matched (a : Auditor) (is : List Inspection) :
    (is.foldl record a).matched = a.matched.insertAll (is.flatMap Inspection.matched) := by
  induction is generalizing a with
  | nil => rfl
  | cons i is ih =>
    rw [List.foldl_cons, ih, record_matched, List.flatMap_cons, KeySet.insertAll_append]

theorem survey_config (a : Auditor) (w : σ) : (a.survey w).auditor.config = a.config := by
  rw [survey]
  cases a.headers w with
  | error problem => rfl
  | ok files => exact foldl_record_config _ _

theorem survey_matched (h : a.headers w = .ok files) :
    (a.survey w).auditor.matched =
      KeySet.ofList ((files.map (a.inspect w)).flatMap Inspection.matched) := by
  rw [survey, h]
  exact foldl_record_matched _ _

theorem mem_survey_matched {key : UnitText} (h : a.headers w = .ok files) :
    key ∈ (a.survey w).auditor.matched ↔ ∃ file ∈ files, key ∈ (a.inspect w file).matched := by
  rw [survey_matched h, KeySet.mem_ofList, List.mem_flatMap]
  simp only [List.mem_map, exists_exists_and_eq_and]

theorem inspect_audit?_eq_some_iff {audit : FileAudit} : (a.inspect w file).audit? = some audit ↔
    ∃ content, readHeader w file = .ok content ∧
      audit = auditContent file content a.config.keys := by
  rw [inspect, GuidAudit.inspect, Inspection.audit?]
  cases readHeader w file with
  | error problem => simp [Except.toOption]
  | ok content => simp [Except.toOption, eq_comm]

theorem survey_audits (h : a.headers w = .ok files) :
    (a.survey w).audits =
      .ok (((files.map (a.inspect w)).filterMap Inspection.audit?).filter
        fun audit => !audit.found.isEmpty) := by
  rw [survey, h]
  rfl

theorem survey_withProperties {audits : List FileAudit} (h : (a.survey w).audits = .ok audits) :
    (a.survey w).auditor.stats.withProperties = audits.length := by
  cases hf : a.headers w with
  | error problem =>
    rw [survey, hf] at h
    cases h
  | ok files =>
    rw [survey_audits hf] at h
    cases h
    rw [survey, hf]
    rfl

theorem mem_survey_audits_iff {audits : List FileAudit} {audit : FileAudit}
    (h : a.headers w = .ok files) (ha : (a.survey w).audits = .ok audits) :
    audit ∈ audits ↔ audit.found ≠ [] ∧ ∃ file ∈ files, ∃ content,
      readHeader w file = .ok content ∧ audit = auditContent file content a.config.keys := by
  obtain rfl := Except.ok.inj ((survey_audits h).symm.trans ha)
  simp only [List.mem_filter, List.mem_filterMap, List.mem_map, exists_exists_and_eq_and,
    inspect_audit?_eq_some_iff, Bool.not_eq_true', List.isEmpty_eq_false_iff]
  exact and_comm

end Auditor

end GuidAudit
