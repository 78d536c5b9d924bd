import GuidAudit.Proofs.Accounting
import GuidAudit.Proofs.History

namespace GuidAudit

variable {σ : Type} [FileSystem σ] {a : Auditor} {w : σ} {keys : KeySet} {key other : String}
variable {p : Property}

/-- The element found is the one that comes first among those that pass. -/
theorem find?_eq_some_iff_idxOf {texts : List String} {passes : String → Bool} :
    texts.find? passes = some key ↔ key ∈ texts ∧ passes key = true ∧
      ∀ other ∈ texts, passes other = true → texts.idxOf key ≤ texts.idxOf other := by
  induction texts with
  | nil => simp
  | cons head rest ih =>
    by_cases hhead : passes head = true
    · rw [List.find?_cons_of_pos hhead]
      constructor
      · intro h
        obtain rfl := Option.some.inj h
        refine ⟨List.mem_cons_self, hhead, fun other _ _ => ?_⟩
        rw [List.idxOf_cons_self]
        exact Nat.zero_le _
      · intro h
        obtain ⟨_, _, hfirst⟩ := h
        have hle := hfirst head List.mem_cons_self hhead
        rw [List.idxOf_cons_self, Nat.le_zero] at hle
        by_cases he : head = key
        · rw [he]
        · rw [List.idxOf_cons_ne _ he] at hle
          cases hle
    · have hne {other : String} (h : passes other = true) : head ≠ other := by
        rintro rfl
        exact hhead h
      rw [List.find?_cons_of_neg hhead, ih]
      constructor
      · intro h
        obtain ⟨hmem, hkey, hfirst⟩ := h
        refine ⟨List.mem_cons_of_mem _ hmem, hkey, fun other ho hp => ?_⟩
        have ho' := (List.mem_cons.1 ho).resolve_left (hne hp).symm
        rw [List.idxOf_cons_ne _ (hne hkey), List.idxOf_cons_ne _ (hne hp)]
        exact Nat.succ_le_succ (hfirst other ho' hp)
      · intro h
        obtain ⟨hmem, hkey, hfirst⟩ := h
        have hmem' := (List.mem_cons.1 hmem).resolve_left (hne hkey).symm
        refine ⟨hmem', hkey, fun other ho hp => ?_⟩
        have hle := hfirst other (List.mem_cons_of_mem _ ho) hp
        rw [List.idxOf_cons_ne _ (hne hkey), List.idxOf_cons_ne _ (hne hp)] at hle
        exact Nat.le_of_succ_le_succ hle

namespace Property

/-- The one key of a member is looked for before the other one. -/
def Outranks (p : Property) (key other : String) : Prop :=
  p.suppressors.idxOf key < p.suppressors.idxOf other

theorem suppressingKey?_eq_some_iff : p.suppressingKey? keys = some key ↔
    key ∈ p.suppressors ∧ ↑key ∈ keys ∧
      ∀ other ∈ p.suppressors, ↑other ∈ keys → ¬ p.Outranks other key := by
  rw [suppressingKey?_eq_find?, find?_eq_some_iff_idxOf]
  simp only [decide_eq_true_eq, Outranks, Nat.not_lt]

end Property

/-- All members that are found in a survey, none if the search for headers fails. -/
def Auditor.findings (a : Auditor) (w : σ) : List Property :=
  GuidAudit.findings w ((a.headers w).toOption.getD [])

theorem Auditor.findings_of_headers {files : List String} (h : a.headers w = .ok files) :
    a.findings w = GuidAudit.findings w files := by
  rw [findings, h]
  rfl

theorem mem_inspect_matched_iff {file : String} {key : UnitText} :
    key ∈ (inspect w keys file).matched ↔
      ∃ p ∈ findingsIn w file, ∃ own, p.suppressingKey? keys = some own ∧ ↑own = key := by
  cases hr : readHeader w file with
  | error problem => simp [inspect, hr, Inspection.matched, findingsIn]
  | ok content =>
    rw [inspect_matched_eq hr, findingsIn, hr]
    constructor
    · intro h
      obtain ⟨waiver, hw, rfl⟩ := List.mem_map.1 h
      obtain ⟨hp, hk⟩ := mem_suppressed_iff.1 hw
      exact ⟨waiver.property, hp, waiver.key, hk, rfl⟩
    · intro h
      obtain ⟨p, hp, own, hk, rfl⟩ := h
      exact List.mem_map.2 ⟨⟨p, own⟩, mem_suppressed_iff.2 ⟨hp, hk⟩, rfl⟩

/-- The keys that a survey has matched are those that suppress a finding. -/
theorem Auditor.mem_survey_matched_iff_findings {key : UnitText} :
    key ∈ (a.survey w).auditor.matched ↔
      ∃ p ∈ a.findings w, ∃ own, p.suppressingKey? a.config.keys = some own ∧ ↑own = key := by
  cases hf : a.headers w with
  | error problem =>
    have hnone : key ∉ (a.survey w).auditor.matched := by
      rw [survey, hf]
      exact List.not_mem_nil
    simp [findings, hf, hnone, Except.toOption, GuidAudit.findings]
  | ok files =>
    rw [mem_survey_matched hf, findings_of_headers hf, GuidAudit.findings]
    simp only [inspect, mem_inspect_matched_iff, List.mem_flatMap]
    constructor
    · intro h
      obtain ⟨file, hfile, p, hp, hk⟩ := h
      exact ⟨p, ⟨file, hfile, hp⟩, hk⟩
    · intro h
      obtain ⟨p, ⟨file, hfile, hp⟩, hk⟩ := h
      exact ⟨file, hfile, p, hp, hk⟩

theorem Auditor.mem_survey_unused_iff {key : UnitText} :
    (∃ u ∈ (a.survey w).auditor.unused, u.key = key) ↔
      key ∈ a.config.keys ∧ isComment key = false ∧ key ∉ (a.survey w).auditor.matched := by
  rw [mem_unused_iff, survey_config]

/-- A key is unused exactly if it is no comment and, for each finding that it is a key of, another
key is given that is looked for earlier. -/
theorem unused_iff_outranked (a : Auditor) (w : σ) (key : UnitText) :
    (∃ u ∈ (a.survey w).auditor.unused, u.key = key) ↔
      key ∈ a.config.keys ∧ isComment key = false ∧
        ∀ p ∈ a.findings w, ∀ own ∈ p.suppressors, ↑own = key →
          ∃ other ∈ p.suppressors, ↑other ∈ a.config.keys ∧ p.Outranks other own := by
  rw [Auditor.mem_survey_unused_iff, Auditor.mem_survey_matched_iff_findings]
  apply and_congr_right
  intro hkey
  apply and_congr_right
  intro _
  constructor
  · rintro h p hp own hmem rfl
    by_contra hnone
    apply h
    refine ⟨p, hp, own, Property.suppressingKey?_eq_some_iff.2 ⟨hmem, hkey, ?_⟩, rfl⟩
    intro other ho hg hr
    exact hnone ⟨other, ho, hg, hr⟩
  · rintro h ⟨p, hp, own, hs, rfl⟩
    obtain ⟨hmem, _, hfirst⟩ := Property.suppressingKey?_eq_some_iff.1 hs
    obtain ⟨other, ho, hg, hr⟩ := h p hp own hmem rfl
    exact hfirst other ho hg hr

theorem Auditor.findings_soleFile {n : Name} {text : String} (ha : a.config = { root := ".", keys })
    (hs : n.isStorable = true) (hn : isHeaderName n = true)
    (hread : (Workspace.soleFile n text).read n.text = .ok text.toUTF8) :
    a.findings (Workspace.soleFile n text) =
      properties n.text (lines (dropByteOrderMark text.toList)) := by
  have hfiles : a.headers (Workspace.soleFile n text) = .ok [n.text] := by
    rw [headers, ha]
    exact Workspace.soleFile_headers hs hn text
  have hcontent : readHeader (Workspace.soleFile n text) n.text =
      .ok (String.ofList (dropByteOrderMark text.toList)) :=
    readHeader_eq_ok_iff.2 ⟨text, hread, rfl⟩
  rw [findings_of_headers hfiles, GuidAudit.findings, List.flatMap_singleton, findingsIn,
    hcontent]
  simp only [String.toList_ofList]

/-- A key that a member has can be unused, since another key suppresses the member. -/
theorem key_of_finding_unused :
    let a : Auditor := { config := { root := ".", keys := .ofList ["*::Id", "A.h"] } }
    let w := Workspace.oneHeader "UPROPERTY()\nFGuid Id;"
    isComment "A.h" = false ∧ (∃ p ∈ a.findings w, "A.h" ∈ p.suppressors) ∧
      ∃ u ∈ (a.survey w).auditor.unused, u.key = UnitText.ofString "A.h" := by
  intro a w
  have hfound : a.findings w = properties "A.h" (lines "UPROPERTY()\nFGuid Id;".toList) :=
    Auditor.findings_soleFile (n := ⟨"A.h", by decide⟩) rfl (by decide) (by decide)
      (Workspace.oneHeader_read _)
  refine ⟨by decide, ?_, ?_⟩
  · rw [hfound]
    decide
  · rw [Auditor.mem_survey_unused_iff, Auditor.mem_survey_matched_iff_findings, hfound]
    decide

end GuidAudit
