import GuidAudit.Proofs.Reading
import GuidAudit.Proofs.Search
import GuidAudit.Proofs.Survey

namespace GuidAudit

variable {σ : Type} [FileSystem σ] {a : Auditor} {w : σ} {s : KeySet} {removed : List UnitText}
variable {key : UnitText}

def KeySet.without (s : KeySet) (removed : List UnitText) : KeySet where
  toList := s.toList.filter fun key => key ∉ removed
  nodup := s.nodup.filter _

theorem KeySet.mem_without : key ∈ s.without removed ↔ key ∈ s ∧ key ∉ removed :=
  List.mem_filter.trans (and_congr_right fun _ => decide_eq_true_iff)

theorem KeySet.unused_without (s matched : KeySet) (removed : List UnitText) :
    (s.without removed).unused matched =
      (s.unused matched).filter fun u => u.key ∉ removed := by
  rw [unused, unused, List.filter_map, List.filter_filter, without, List.filter_filter]
  congr 1
  apply List.filter_congr
  intro key _
  exact Bool.and_comm _ _

theorem KeySet.not_mem_of_mem_unused {matched : KeySet} {u : UnusedKey}
    (h : u ∈ s.unused matched) : u.key ∉ matched := by
  obtain ⟨key, hkey, rfl⟩ := List.mem_map.1 h
  have hm := (List.mem_filter.1 hkey).2
  simp only [Bool.and_eq_true, decide_eq_true_eq] at hm
  exact hm.2

namespace Auditor

/-- An auditor that has looked at nothing yet and lacks some of the keys. -/
def withoutKeys (a : Auditor) (removed : List UnitText) : Auditor where
  config := { a.config with keys := a.config.keys.without removed }

theorem withoutKeys_inspect {file : String}
    (h : ∀ k ∈ (a.inspect w file).matched, k ∉ removed) :
    (a.withoutKeys removed).inspect w file = a.inspect w file := by
  apply inspect_eq_of_subset
  · intro k hk
    exact (KeySet.mem_without.1 hk).1
  · intro k hk
    exact KeySet.mem_without.2 ⟨inspect_matched_subset hk, h k hk⟩

theorem withoutKeys_headers (a : Auditor) (w : σ) (removed : List UnitText) :
    (a.withoutKeys removed).headers w = a.headers w := rfl

/-- Deleting keys that nothing has matched changes neither what is found nor what is matched. -/
theorem withoutKeys_survey (h : ∀ k ∈ removed, k ∉ (a.survey w).auditor.matched) :
    ((a.withoutKeys removed).survey w).audits = (a.survey w).audits ∧
    ((a.withoutKeys removed).survey w).auditor.matched = (a.survey w).auditor.matched := by
  cases hf : a.headers w with
  | error problem =>
    have hf' := (withoutKeys_headers a w removed).trans hf
    rw [survey, survey, hf, hf']
    exact ⟨rfl, rfl⟩
  | ok files =>
    have hf' := (withoutKeys_headers a w removed).trans hf
    have hi : files.map ((a.withoutKeys removed).inspect w) = files.map (a.inspect w) := by
      apply List.map_congr_left
      intro file hfile
      apply withoutKeys_inspect
      intro k hk hr
      exact h k hr ((mem_survey_matched hf).2 ⟨file, hfile, hk⟩)
    rw [survey_audits hf, survey_audits hf', survey_matched hf, survey_matched hf', hi]
    exact ⟨rfl, rfl⟩

theorem survey_unused (a : Auditor) (w : σ) :
    (a.survey w).auditor.unused = a.config.keys.unused (a.survey w).auditor.matched := by
  rw [unused, survey_config]

end Auditor

/-- Whichever unused keys are deleted, a fresh auditor finds all as before, and reports as unused
the other ones only. -/
theorem survey_without_unused_keys (a : Auditor) (w : σ) (removed : List UnitText)
    (h : ∀ k ∈ removed, ∃ u ∈ (a.survey w).auditor.unused, u.key = k) :
    ((a.withoutKeys removed).survey w).audits = (a.survey w).audits ∧
    ((a.withoutKeys removed).survey w).auditor.unused =
      (a.survey w).auditor.unused.filter fun u => u.key ∉ removed := by
  have hunmatched : ∀ k ∈ removed, k ∉ (a.survey w).auditor.matched := by
    intro k hk
    obtain ⟨u, hu, rfl⟩ := h k hk
    rw [Auditor.survey_unused] at hu
    exact KeySet.not_mem_of_mem_unused hu
  obtain ⟨haudits, hmatched⟩ := Auditor.withoutKeys_survey hunmatched
  refine ⟨haudits, ?_⟩
  rw [Auditor.survey_unused, Auditor.survey_unused, hmatched]
  exact KeySet.unused_without _ _ _

/-- One key suppresses the only member, so that the file's own key is not needed. -/
theorem survey_without_shadowed_key :
    let a : Auditor := { config := { root := ".", keys := .ofList ["*::Id", "A.h", "B.h"] } }
    let w := Workspace.oneHeader "UPROPERTY()\nFGuid Id;"
    (∀ k ∈ [UnitText.ofString "A.h"], ∃ u ∈ (a.survey w).auditor.unused, u.key = k) ∧
    ((a.withoutKeys ["A.h"]).survey w).audits = (a.survey w).audits ∧
    ((a.withoutKeys ["A.h"]).survey w).auditor.unused = [{ key := "B.h", form := .file }] := by
  intro a w
  have hfiles : a.headers w = .ok ["A.h"] := Workspace.oneHeader_headers _
  have hread : readHeader w "A.h" = .ok "UPROPERTY()\nFGuid Id;" :=
    readHeader_eq_ok_iff.2 ⟨_, Workspace.oneHeader_read _, by decide⟩
  have hinspect : (a.inspect w "A.h").matched = [UnitText.ofString "*::Id"] := by
    rw [Auditor.inspect, inspect_matched_eq hread]
    decide
  have hmatched : (a.survey w).auditor.matched = .ofList ["*::Id"] := by
    rw [Auditor.survey_matched hfiles, List.map_singleton, List.flatMap_singleton, hinspect]
  have hunused : (a.survey w).auditor.unused =
      [{ key := "A.h", form := .file }, { key := "B.h", form := .file }] := by
    rw [Auditor.survey_unused, hmatched]
    decide
  have h : ∀ k ∈ [UnitText.ofString "A.h"], ∃ u ∈ (a.survey w).auditor.unused, u.key = k := by
    rw [hunused]
    decide
  obtain ⟨haudits, hrest⟩ := survey_without_unused_keys a w ["A.h"] h
  refine ⟨h, haudits, ?_⟩
  rw [hrest, hunused]
  decide

end GuidAudit
