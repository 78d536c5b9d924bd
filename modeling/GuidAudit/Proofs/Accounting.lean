import Mathlib.Data.Finset.Card
import GuidAudit.Proofs.Json.Printer
import GuidAudit.Proofs.Owner
import GuidAudit.Proofs.Search
import GuidAudit.Proofs.Survey
import GuidAudit.Report

namespace GuidAudit

variable {σ : Type} [FileSystem σ] {a : Auditor} {w : σ} {keys : KeySet} {files : List String}
variable {p q : Property} {audits : List FileAudit}

/-- The members found in a header, none if it cannot be read. -/
def findingsIn (w : σ) (file : String) : List Property :=
  match readHeader w file with
  | .ok content => properties file (lines content.toList)
  | .error _ => []

def findings (w : σ) (files : List String) : List Property := files.flatMap (findingsIn w)

namespace Property

/-- The keys that would suppress a member, in the order in which they are looked for. -/
def suppressors (p : Property) : List String :=
  [p.file ++ ":" ++ p.owner ++ "::" ++ p.name, p.owner ++ "::" ++ p.name, "*::" ++ p.name, p.file]

/-- The verdict that the keys and the initializer of a member call for. -/
def Deserves (keys : KeySet) (p : Property) : Verdict → Prop
  | .suppressed key => p.suppressors.find? (fun k : String => ↑k ∈ keys) = some key
  | .valid =>
    (∀ key ∈ p.suppressors, ↑key ∉ keys) ∧
      (p.initializer = some "FGuid()" ∨ p.initializer = some "FGuid::NewGuid()")
  | .invalid reason =>
    (∀ key ∈ p.suppressors, ↑key ∉ keys) ∧
      ¬ (p.initializer = some "FGuid()" ∨ p.initializer = some "FGuid::NewGuid()") ∧
      (reason = .missingInitializer ↔ p.initializer = none)

/-- The order by files, and by lines within one file. -/
def Precedes (p q : Property) : Prop :=
  unitsLe p.file q.file = true ∧ (p.file = q.file → p.line ≤ q.line)

theorem suppressingKey?_eq_find? (p : Property) (keys : KeySet) :
    p.suppressingKey? keys = p.suppressors.find? (fun k : String => ↑k ∈ keys) :=
  KeySet.find?_eq_find?_map keys p.file p.owner p.name

theorem hasAcceptedInitializer_iff : p.hasAcceptedInitializer = true ↔
    p.initializer = some "FGuid()" ∨ p.initializer = some "FGuid::NewGuid()" := by
  rw [hasAcceptedInitializer]
  cases p.initializer with
  | none => simp
  | some text => simp [acceptedInitializers]

theorem violation?_property {v : Violation} (h : p.violation? keys = some v) : v.property = p := by
  unfold violation? at h
  split at h
  · cases h
    rfl
  · cases h

theorem deserves_verdict (keys : KeySet) (p : Property) : p.Deserves keys (p.verdict keys) := by
  rw [verdict, suppressingKey?_eq_find?]
  cases hk : p.suppressors.find? (fun k : String => ↑k ∈ keys) with
  | some key => exact hk
  | none =>
    have hnone : ∀ key ∈ p.suppressors, ↑key ∉ keys := by
      intro key hkey
      simpa using List.find?_eq_none.1 hk key hkey
    by_cases hi : p.hasAcceptedInitializer = true
    · rw [if_pos hi]
      exact ⟨hnone, hasAcceptedInitializer_iff.1 hi⟩
    · rw [if_neg hi]
      refine ⟨hnone, fun h => hi (hasAcceptedInitializer_iff.2 h), ?_⟩
      cases p.initializer <;> simp

end Property

/-- The lists of a report. -/
structure Ledger where
  invalid : List Violation
  suppressed : List Waiver
  valid : List Property

namespace Ledger

variable {ledger : Ledger}

/-- All entries, each with the verdict of the list that it stands in. -/
def entries (ledger : Ledger) : List (Property × Verdict) :=
  ledger.invalid.map (fun v => (v.property, .invalid v.reason)) ++
    ledger.suppressed.map (fun w => (w.property, .suppressed w.key)) ++
    ledger.valid.map (fun p => (p, .valid))

def record (ledger : Ledger) (s : Summary) (unused : Option (List UnusedKey)) : Json.Value :=
  let members : List (UnitText × Json.Value) := [
    ("tool", .string "uproperty-guid-lint"),
    ("tool_version", .string "0.1.0"),
    ("summary", Record.summary s),
    ("invalid", .array (ledger.invalid.map Record.violation)),
    ("suppressed", .array (ledger.suppressed.map Record.waiver)),
    ("valid", .array (ledger.valid.map Record.valid))]
  match unused with
  | none => .object members
  | some keys =>
    .object (members.concat ("unused_suppressions", .array (keys.map Record.unusedKey)))

/-- Every list is in the order of files and lines. -/
structure Ordered (ledger : Ledger) : Prop where
  invalid : ledger.invalid.Pairwise fun v v' => v.property.Precedes v'.property
  suppressed : ledger.suppressed.Pairwise fun w w' => w.property.Precedes w'.property
  valid : ledger.valid.Pairwise Property.Precedes

/-- The numbers that a summary gives are those of the lists. -/
structure Totals (ledger : Ledger) (s : Summary) : Prop where
  invalid : s.invalid = ledger.invalid.length
  suppressed : s.suppressed = ledger.suppressed.length
  valid : s.valid = ledger.valid.length
  found : s.found = s.invalid + s.suppressed + s.valid
  files : s.files = (ledger.entries.map fun e => e.1.file).toFinset.card
  passed : s.passed = true ↔ ledger.invalid = []

def ofAudits (audits : List FileAudit) : Ledger where
  invalid := audits.flatMap (·.invalid)
  suppressed := audits.flatMap (·.suppressed)
  valid := audits.flatMap (·.valid)

def ofFindings (keys : KeySet) (found : List Property) : Ledger where
  invalid := found.filterMap (Property.violation? keys)
  suppressed := found.filterMap (Property.waiver? keys)
  valid := found.filter fun p => p.verdict keys = .valid

/-- Every finding is entered once, and by its verdict. -/
theorem entries_ofFindings_perm (keys : KeySet) (found : List Property) :
    (ofFindings keys found).entries.Perm (found.map fun p => (p, p.verdict keys)) := by
  induction found with
  | nil => exact .refl _
  | cons p found ih =>
    rw [List.map_cons]
    cases hv : p.verdict keys with
    | invalid reason =>
      have he : (ofFindings keys (p :: found)).entries =
          (p, .invalid reason) :: (ofFindings keys found).entries := by
        simp [entries, ofFindings, Property.violation?, Property.waiver?, hv]
      rw [he]
      exact ih.cons _
    | suppressed key =>
      have he : (ofFindings keys (p :: found)).entries =
          (ofFindings keys found).invalid.map (fun v => (v.property, .invalid v.reason)) ++
            (p, .suppressed key) ::
              ((ofFindings keys found).suppressed.map (fun w => (w.property, .suppressed w.key)) ++
                (ofFindings keys found).valid.map fun p => (p, .valid)) := by
        simp [entries, ofFindings, Property.violation?, Property.waiver?, hv]
      rw [he]
      apply List.perm_middle.trans
      rw [← List.append_assoc]
      exact ih.cons _
    | valid =>
      have he : (ofFindings keys (p :: found)).entries =
          (ofFindings keys found).invalid.map (fun v => (v.property, .invalid v.reason)) ++
            (ofFindings keys found).suppressed.map (fun w => (w.property, .suppressed w.key)) ++
              (p, .valid) :: (ofFindings keys found).valid.map fun p => (p, .valid) := by
        simp [entries, ofFindings, Property.violation?, Property.waiver?, hv]
      rw [he]
      exact List.perm_middle.trans (ih.cons _)

theorem map_fst_entries_ofFindings_perm (keys : KeySet) (found : List Property) :
    ((ofFindings keys found).entries.map (·.1)).Perm found := by
  have h := (entries_ofFindings_perm keys found).map (·.1)
  rw [List.map_map] at h
  exact h.trans (List.map_id _ ▸ .refl _)

theorem deserves_of_mem_entries {found : List Property} {e : Property × Verdict}
    (he : e ∈ (ofFindings keys found).entries) : e.1.Deserves keys e.2 := by
  obtain ⟨p, _, rfl⟩ := List.mem_map.1 ((entries_ofFindings_perm keys found).mem_iff.1 he)
  exact p.deserves_verdict keys

theorem ordered_ofFindings {found : List Property} (h : found.Pairwise Property.Precedes) :
    (ofFindings keys found).Ordered where
  invalid := by
    apply h.filterMap
    intro p q hpq v hv v' hv'
    rw [Property.violation?_property hv, Property.violation?_property hv']
    exact hpq
  suppressed := by
    apply h.filterMap
    intro p q hpq waiver hw waiver' hw'
    rw [(Property.waiver?_eq_some_iff.1 hw).1, (Property.waiver?_eq_some_iff.1 hw').1]
    exact hpq
  valid := h.filter _

theorem record_ofAudits (audits : List FileAudit) (unused : Option (List UnusedKey)) :
    (ofAudits audits).record (.ofAudits audits) unused = Record.report audits unused := by
  cases unused <;> rfl

theorem length_entries (ledger : Ledger) : ledger.entries.length =
    ledger.invalid.length + ledger.suppressed.length + ledger.valid.length := by
  simp only [entries, List.length_append, List.length_map]

end Ledger

theorem properties_pairwise (file : String) (ls : List Line) :
    (properties file ls).Pairwise fun p q => p.line ≤ q.line := by
  rw [properties, List.pairwise_map]
  exact detections_line_pairwise ls

theorem file_of_mem_findingsIn {file : String} (h : p ∈ findingsIn w file) :
    p.file = file := by
  unfold findingsIn at h
  split at h
  · obtain ⟨_, _, _, _, hf, _⟩ := mem_properties_iff.1 h
    exact hf
  · cases h

theorem findingsIn_pairwise (w : σ) (file : String) :
    (findingsIn w file).Pairwise fun p q => p.line ≤ q.line := by
  unfold findingsIn
  split
  · exact properties_pairwise _ _
  · exact .nil

theorem findings_pairwise (hd : files.Nodup)
    (hs : files.Pairwise fun file file' => unitsLe file file' = true) :
    (findings w files).Pairwise Property.Precedes := by
  apply List.pairwise_flatMap.2
  constructor
  · intro file _
    apply (findingsIn_pairwise w file).imp_of_mem
    intro p q hp hq hline
    refine ⟨?_, fun _ => hline⟩
    rw [file_of_mem_findingsIn hp, file_of_mem_findingsIn hq]
    simpa using unitsLe_total file file
  · apply (hd.and hs).imp
    intro file file' h p hp q hq
    rw [Property.Precedes, file_of_mem_findingsIn hp, file_of_mem_findingsIn hq]
    exact ⟨h.2, fun he => absurd he h.1⟩

/-- What a survey gives for one header. -/
theorem Auditor.inspect_audit? (a : Auditor) (w : σ) (file : String) :
    (a.inspect w file).audit? = none ∧ findingsIn w file = [] ∨
    (a.inspect w file).audit? =
      some (auditProperties file (findingsIn w file) a.config.keys) := by
  rw [inspect, GuidAudit.inspect, Inspection.audit?, findingsIn]
  cases readHeader w file with
  | error problem => exact .inl ⟨rfl, rfl⟩
  | ok content => exact .inr rfl

/-- The headers in which something is found. -/
def filesWithFindings (w : σ) (files : List String) : List String :=
  files.filter fun file => !(findingsIn w file).isEmpty

theorem mem_filesWithFindings_iff {file : String} :
    file ∈ filesWithFindings w files ↔ ∃ p ∈ findings w files, p.file = file := by
  rw [filesWithFindings, findings, List.mem_filter, Bool.not_eq_true',
    List.isEmpty_eq_false_iff_exists_mem]
  constructor
  · intro h
    obtain ⟨hf, p, hp⟩ := h
    exact ⟨p, List.mem_flatMap.2 ⟨file, hf, hp⟩, file_of_mem_findingsIn hp⟩
  · intro h
    obtain ⟨p, hp, rfl⟩ := h
    obtain ⟨file, hf, hp⟩ := List.mem_flatMap.1 hp
    rw [file_of_mem_findingsIn hp]
    exact ⟨hf, p, hp⟩

theorem findings_filesWithFindings (w : σ) (files : List String) :
    findings w (filesWithFindings w files) = findings w files := by
  induction files with
  | nil => rfl
  | cons file files ih =>
    simp only [findings, filesWithFindings] at ih ⊢
    cases he : findingsIn w file with
    | nil => simpa [he] using ih
    | cons p found => simpa [he] using ih

theorem Auditor.survey_audits_eq_map (hf : a.headers w = .ok files)
    (h : (a.survey w).audits = .ok audits) :
    audits = (filesWithFindings w files).map fun file =>
      auditProperties file (findingsIn w file) a.config.keys := by
  rw [survey_audits hf] at h
  cases h
  clear hf
  induction files with
  | nil => rfl
  | cons file files ih =>
    rw [filesWithFindings] at ih ⊢
    rw [List.map_cons, List.filterMap_cons]
    rcases a.inspect_audit? w file with ⟨hn, he⟩ | hs
    · simpa [hn, he] using ih
    · cases he : findingsIn w file with
      | nil => simpa [hs, he, auditProperties] using ih
      | cons p found => simpa [hs, he, auditProperties] using ih

section Survey

variable (hf : a.headers w = .ok files) (h : (a.survey w).audits = .ok audits)
include hf h

theorem Auditor.survey_found : audits.flatMap (·.found) = findings w files := by
  rw [survey_audits_eq_map hf h, List.flatMap_map, ← findings_filesWithFindings w files]
  rfl

theorem Ledger.ofAudits_eq_ofFindings :
    ofAudits audits = ofFindings a.config.keys (findings w files) := by
  rw [ofAudits, ofFindings, Auditor.survey_audits_eq_map hf h,
    ← findings_filesWithFindings w files]
  simp only [findings, List.flatMap_map, List.filterMap_flatMap, List.filter_flatMap,
    auditProperties]

theorem Summary.totals_ofAudits (hd : files.Nodup) :
    (Ledger.ofAudits audits).Totals (Summary.ofAudits audits) := by
  have hperm := Ledger.map_fst_entries_ofFindings_perm a.config.keys (findings w files)
  rw [← Ledger.ofAudits_eq_ofFindings hf h] at hperm
  have hfound : (Summary.ofAudits audits).found = (Ledger.ofAudits audits).entries.length := by
    rw [← List.length_map, hperm.length_eq, ← Auditor.survey_found hf h]
    rfl
  have hfiles : (Summary.ofAudits audits).files =
      ((Ledger.ofAudits audits).entries.map fun e => e.1.file).toFinset.card := by
    have he : ((Ledger.ofAudits audits).entries.map fun e => e.1.file).toFinset =
        (filesWithFindings w files).toFinset := by
      -- Both hold the files of the findings, which the entries only list in another order.
      ext file
      rw [List.mem_toFinset, List.mem_toFinset, mem_filesWithFindings_iff]
      simp only [← hperm.mem_iff, List.mem_map, exists_exists_and_eq_and]
    have hn : (filesWithFindings w files).Nodup := hd.filter _
    rw [he, List.toFinset_card_of_nodup hn, ofAudits, Auditor.survey_audits_eq_map hf h,
      List.length_map]
  exact {
    invalid := rfl
    suppressed := rfl
    valid := rfl
    found := hfound.trans (Ledger.length_entries _)
    files := hfiles
    passed := by
      rw [passed, beq_iff_eq]
      exact List.length_eq_zero_iff }

end Survey

/-- Every member found in a header that can be read is entered in the report once, in the list and
with the details that it deserves; the lists are in order, and the summary counts them. -/
theorem report_enters_each_finding_once (a : Auditor) (w : Workspace)
    (unused : Option (List UnusedKey)) :
    match a.headers w with
    | .error problem => (a.survey w).audits = .error problem
    | .ok files =>
      files.Nodup ∧ ∃ audits ledger summary, ∃ text : String,
        (a.survey w).audits = .ok audits ∧
        (Report.build .json audits unused).text = text ∧
        Json.Value.ofText? text = some (Ledger.record ledger summary unused) ∧
        (ledger.entries.map (·.1)).Perm (findings w files) ∧
        (∀ e ∈ ledger.entries, e.1.Deserves a.config.keys e.2) ∧
        ledger.Ordered ∧
        ledger.Totals summary ∧
        summary.files = (a.survey w).auditor.stats.withProperties := by
  cases hf : a.headers w with
  | error problem =>
    rw [Auditor.survey, hf]
  | ok files =>
    obtain ⟨audits, ha⟩ : ∃ audits, (a.survey w).audits = .ok audits :=
      ⟨_, Auditor.survey_audits hf⟩
    have hd : files.Nodup := Workspace.headers_nodup hf
    have hl := Ledger.ofAudits_eq_ofFindings hf ha
    refine ⟨hd, audits, .ofAudits audits, .ofAudits audits, (Record.report audits unused).render,
      ha, rfl, ?_, ?_, ?_, ?_, ?_, ?_⟩
    · rw [Json.Value.ofText?_render, Ledger.record_ofAudits]
    · rw [hl]
      exact Ledger.map_fst_entries_ofFindings_perm _ _
    · intro e he
      rw [hl] at he
      exact Ledger.deserves_of_mem_entries he
    · rw [hl]
      exact Ledger.ordered_ofFindings (findings_pairwise hd (headers_pairwise hf))
    · exact Summary.totals_ofAudits hf ha hd
    · exact (Auditor.survey_withProperties ha).symm

end GuidAudit
