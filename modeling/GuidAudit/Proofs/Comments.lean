import GuidAudit.Proofs.Owner
import GuidAudit.Proofs.Run
import GuidAudit.Proofs.Shadowing

namespace GuidAudit

variable {σ : Type} [FileSystem σ] {a : Auditor} {w : σ} {keys : KeySet} {key : String}
variable {p : Property} {s t : List Char} {c : Char}

theorem Auditor.owner_isIdentifier (h : p ∈ a.findings w) : IsIdentifier p.owner := by
  obtain ⟨file, _, hp⟩ := List.mem_flatMap.1 h
  unfold findingsIn at hp
  split at hp
  · exact owner_isIdentifier_of_mem hp
  · cases hp

/-- Whether a text is a comment is settled before its first character that is neither a blank nor
a number sign. -/
theorem head?_skipBlanks_append (hb : isBlank c = false) (hc : c ≠ '#') :
    (skipBlanks (s ++ c :: t)).head? = some '#' ↔ (skipBlanks s).head? = some '#' := by
  induction s with
  | nil => simp [skipBlanks, hb, hc]
  | cons x s ih =>
    by_cases hx : isBlank x = true
    · simpa [skipBlanks, hx] using ih
    · simp [skipBlanks, hx]

theorem isComment_eq_false_of_toList (hb : isBlank c = false) (hc : c ≠ '#')
    (h : key.toList = c :: t) : isComment key = false := by
  rw [isComment, UnitText.shown_ofString, h]
  simp [skipBlanks, hb, hc]

namespace Property

theorem isComment_fileKey (p : Property) :
    isComment (.ofString (p.file ++ ":" ++ p.owner ++ "::" ++ p.name)) = true ↔
      isComment p.file = true := by
  have htext : (p.file ++ ":" ++ p.owner ++ "::" ++ p.name).toList =
      p.file.toList ++ ':' :: (p.owner.toList ++ "::".toList ++ p.name.toList) := by simp
  rw [isComment, isComment, UnitText.shown_ofString, UnitText.shown_ofString, htext, beq_iff_eq,
    beq_iff_eq]
  exact head?_skipBlanks_append (by decide) (by decide)

theorem isComment_structKey (ho : IsIdentifier p.owner) :
    isComment (.ofString (p.owner ++ "::" ++ p.name)) = false := by
  cases howner : p.owner.toList with
  | nil => exact absurd (String.toList_eq_nil_iff.1 howner) ho.1
  | cons c rest =>
    have hword := ho.2 c (howner ▸ List.mem_cons_self)
    have hc : c ≠ '#' := by
      rintro rfl
      exact absurd hword (by decide)
    apply isComment_eq_false_of_toList (isBlank_eq_false_of_isWord hword) hc
    rw [String.toList_append, String.toList_append, howner]
    rfl

theorem isComment_anyKey (p : Property) : isComment (.ofString ("*::" ++ p.name)) = false := by
  apply isComment_eq_false_of_toList (c := '*') (by decide) (by decide)
  rw [String.toList_append]
  rfl

/-- Only the keys that begin with the file can be comments. -/
theorem file_isComment_of_key (ho : IsIdentifier p.owner) (hkey : key ∈ p.suppressors)
    (h : isComment key = true) : isComment p.file = true ∧
      (key = p.file ++ ":" ++ p.owner ++ "::" ++ p.name ∨ key = p.file) := by
  simp only [suppressors, List.mem_cons, List.not_mem_nil, or_false] at hkey
  rcases hkey with rfl | rfl | rfl | rfl
  · exact ⟨p.isComment_fileKey.1 h, .inl rfl⟩
  · exact absurd h (Bool.eq_false_iff.1 (isComment_structKey ho))
  · exact absurd h (Bool.eq_false_iff.1 p.isComment_anyKey)
  · exact ⟨h, .inr rfl⟩

/-- Of the keys of a member the first one that is given is a comment, and suppresses the member. -/
def CommentedOut (keys : KeySet) (p : Property) : Prop :=
  ∃ key : String, p.suppressors.find? (fun k : String => ↑k ∈ keys) = some key ∧
    isComment key = true

end Property

namespace Auditor

/-- A fresh auditor with the keys that are no comments. -/
def withoutComments (a : Auditor) : Auditor :=
  a.withoutKeys (a.config.keys.toList.filter isComment)

theorem mem_withoutComments_keys {key : UnitText} :
    key ∈ a.withoutComments.config.keys ↔ key ∈ a.config.keys ∧ isComment key = false := by
  have h : key ∈ a.withoutComments.config.keys ↔
      key ∈ a.config.keys ∧ key ∉ a.config.keys.toList.filter isComment := KeySet.mem_without
  rw [h, List.mem_filter, not_and, Bool.not_eq_true]
  exact and_congr_right fun hk => ⟨fun hn => hn hk, fun hn _ => hn⟩

/-- A waiver in the results tells which key suppresses its member, so that equal results need equal
keys. -/
theorem suppressingKey?_mem_of_audits_eq {b : Auditor} (hh : b.headers w = a.headers w)
    (h : (b.survey w).audits = (a.survey w).audits) (hp : p ∈ a.findings w)
    (hkey : p.suppressingKey? a.config.keys = some key) : ↑key ∈ b.config.keys := by
  cases hf : a.headers w with
  | error problem =>
    rw [findings, hf] at hp
    exact absurd hp List.not_mem_nil
  | ok files =>
    obtain ⟨audits, ha⟩ : ∃ audits, (a.survey w).audits = .ok audits := ⟨_, survey_audits hf⟩
    have hledger := Ledger.ofAudits_eq_ofFindings hf ha
    rw [Ledger.ofAudits_eq_ofFindings (hh.trans hf) (h.trans ha)] at hledger
    have hwaivers := congrArg Ledger.suppressed hledger
    rw [findings_of_headers hf] at hp
    have hmem : Waiver.mk p key ∈
        (GuidAudit.findings w files).filterMap (Property.waiver? a.config.keys) :=
      List.mem_filterMap.2 ⟨p, hp, Property.waiver?_eq_some_iff.2 ⟨rfl, hkey⟩⟩
    change List.filterMap _ _ = List.filterMap _ _ at hwaivers
    rw [← hwaivers] at hmem
    obtain ⟨q, _, hq⟩ := List.mem_filterMap.1 hmem
    exact KeySet.mem_of_find? (Property.waiver?_eq_some_iff.1 hq).2

theorem withoutComments_survey_eq_iff :
    (a.withoutComments.survey w).audits = (a.survey w).audits ↔
      ∀ p ∈ a.findings w, ¬ p.CommentedOut a.config.keys := by
  constructor
  · -- The waiver of a member that is commented out names a key that is no longer there.
    intro h p hp hout
    obtain ⟨key, hkey, hcomment⟩ := hout
    rw [← Property.suppressingKey?_eq_find?] at hkey
    have hmem := suppressingKey?_mem_of_audits_eq (withoutKeys_headers a w _) h hp hkey
    rw [(mem_withoutComments_keys.1 hmem).2] at hcomment
    cases hcomment
  · intro h
    refine (withoutKeys_survey fun key hkey hmatched => ?_).1
    obtain ⟨p, hp, own, hk, rfl⟩ := mem_survey_matched_iff_findings.1 hmatched
    rw [Property.suppressingKey?_eq_find?] at hk
    exact h p hp ⟨own, hk, (List.mem_filter.1 hkey).2⟩

end Auditor

/-- Comments among the keys make a difference exactly where one of them suppresses a finding, which
can happen only in a header whose own path reads as a comment. -/
theorem survey_without_comments_eq_iff (a : Auditor) (w : σ) :
    ((a.withoutComments.survey w).audits = (a.survey w).audits ↔
      ∀ p ∈ a.findings w, ¬ p.CommentedOut a.config.keys) ∧
    ∀ p ∈ a.findings w, p.CommentedOut a.config.keys → isComment p.file = true ∧
      (.ofString (p.file ++ ":" ++ p.owner ++ "::" ++ p.name) ∈ a.config.keys ∨
        ↑p.file ∈ a.config.keys) := by
  refine ⟨Auditor.withoutComments_survey_eq_iff, fun p hp hout => ?_⟩
  obtain ⟨key, hkey, hcomment⟩ := hout
  have hgiven : ↑key ∈ a.config.keys := by simpa using List.find?_some hkey
  have ho := Auditor.owner_isIdentifier hp
  obtain ⟨hfile, rfl | rfl⟩ :=
    Property.file_isComment_of_key ho (List.mem_of_find?_eq_some hkey) hcomment
  · exact ⟨hfile, .inl hgiven⟩
  · exact ⟨hfile, .inr hgiven⟩

/-- The path of a header is a comment and still suppresses the member in it. -/
theorem comment_suppresses_member :
    let a : Auditor := { config := { root := ".", keys := .ofList ["#A.h"] } }
    let w := Workspace.soleFile ⟨"#A.h", by decide⟩ "UPROPERTY()\nFGuid Id;"
    isComment "#A.h" = true ∧ (a.withoutComments.survey w).audits ≠ (a.survey w).audits := by
  intro a w
  have hfound : a.findings w = properties "#A.h" (lines "UPROPERTY()\nFGuid Id;".toList) :=
    Auditor.findings_soleFile rfl (by decide) (by decide) rfl
  refine ⟨by decide, fun h => ?_⟩
  rw [Auditor.withoutComments_survey_eq_iff, hfound] at h
  have hp : properties "#A.h" (lines "UPROPERTY()\nFGuid Id;".toList) =
      [{ line := 2, name := "Id", annotationText := "UPROPERTY()", declarationText := "FGuid Id;",
         initializer := none, file := "#A.h", owner := "UnknownStruct" }] := by decide
  rw [hp] at h
  exact h _ List.mem_cons_self ⟨"#A.h", by decide, by decide⟩

end GuidAudit
