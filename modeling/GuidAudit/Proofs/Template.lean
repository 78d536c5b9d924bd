import GuidAudit.Proofs.Comments
import GuidAudit.Proofs.SuppressionFile
import GuidAudit.Proofs.Writing

namespace GuidAudit

variable {σ : Type} [FileSystem σ] {a b : Auditor} {w : σ} {keys : KeySet} {path file : String}
variable {p : Property}

theorem Auditor.name_isIdentifier (h : p ∈ a.findings w) : IsIdentifier p.name := by
  obtain ⟨file, _, hp⟩ := List.mem_flatMap.1 h
  unfold findingsIn at hp
  split at hp
  · exact name_isIdentifier_of_mem hp
  · cases hp

theorem Auditor.file_isHeader {w : Workspace} (h : p ∈ a.findings w) :
    headerSuffix.toList <:+ p.file.toList := by
  cases hf : a.headers w with
  | error problem =>
    rw [findings, hf] at h
    exact absurd h List.not_mem_nil
  | ok files =>
    rw [findings_of_headers hf] at h
    obtain ⟨file, hfile, hp⟩ := List.mem_flatMap.1 h
    rw [file_of_mem_findingsIn hp]
    exact Workspace.suffix_of_mem_headers hf hfile

/-- What a survey finds, by the names that its keys are written with. -/
def Auditor.occurrence {w : Workspace} (p : Property) (h : p ∈ a.findings w) : Occurrence where
  file := p.file
  owner := p.owner
  name := p.name
  header := file_isHeader h
  owner_identifier := owner_isIdentifier h
  name_identifier := name_isIdentifier h

def endsInWord (text : String) : Bool := text.toList.getLast?.any isWord

theorem endsInWord_of_suffix {text : String} {s : List Char} (h : s <:+ text.toList) (hne : s ≠ [])
    (hword : ∀ c ∈ s, isWord c = true) : endsInWord text = true := by
  obtain ⟨before, htext⟩ := h
  obtain ⟨c, hc⟩ : ∃ c, s.getLast? = some c := ⟨_, List.getLast?_eq_some_getLast hne⟩
  rw [endsInWord, ← htext, List.getLast?_append_of_ne_nil _ hne, hc]
  exact hword c (List.mem_of_getLast? hc)

theorem IsIdentifier.endsInWord_append {name : String} (h : IsIdentifier name) (before : String) :
    endsInWord (before ++ name) = true := by
  apply endsInWord_of_suffix _ _ h.2
  · rw [String.toList_append]
    exact List.suffix_append _ _
  · exact fun he => h.1 (String.toList_inj.1 he)

/-- A key of a member ends in the name of the member or in that of a header. -/
theorem Occurrence.endsInWord_key (o : Occurrence) (form : KeyForm) :
    endsInWord (o.key form) = true := by
  cases form with
  | fileStructProperty => exact o.name_identifier.endsInWord_append _
  | structProperty => exact o.name_identifier.endsInWord_append _
  | anyStructProperty => exact o.name_identifier.endsInWord_append _
  | file =>
    have hlast : ['h'] <:+ headerSuffix.toList := ⟨['.'], rfl⟩
    have hword : ∀ c ∈ ['h'], isWord c = true := List.all_eq_true.1 (by decide)
    exact endsInWord_of_suffix (hlast.trans o.header) (List.cons_ne_nil _ _) hword

/-- Keys that end otherwise than any key of a member suppress nothing. -/
theorem Auditor.suppressingKey?_eq_none {w : Workspace}
    (h : ∀ key ∈ keys, endsInWord key.shown = false) (hp : p ∈ a.findings w) :
    p.suppressingKey? keys = none := by
  apply KeySet.find?_eq_none_iff.2
  intro form hkey
  have hword : endsInWord (form.key p.file p.owner p.name) = true :=
    (occurrence p hp).endsInWord_key form
  rw [← UnitText.shown_ofString (form.key _ _ _), h _ hkey] at hword
  cases hword

theorem inspect_empty (h : ∀ p ∈ findingsIn w file, p.suppressingKey? keys = none) :
    inspect w .empty file = inspect w keys file := by
  apply inspect_eq_of_subset
  · exact fun key hkey => absurd hkey List.not_mem_nil
  · intro key hkey
    obtain ⟨p, hp, _, hk, _⟩ := mem_inspect_matched_iff.1 hkey
    rw [h p hp] at hk
    cases hk

namespace Auditor

theorem record_stats (h : b.stats = a.stats) (i : Inspection) :
    (b.record i).stats = (a.record i).stats := by
  rw [record, record]
  cases i.result with
  | error problem => simp only [h]
  | ok audit => simp only [h]

theorem foldl_record_stats (h : b.stats = a.stats) (is : List Inspection) :
    (is.foldl record b).stats = (is.foldl record a).stats := by
  induction is generalizing a b with
  | nil => exact h
  | cons i is ih => exact ih (record_stats h i)

/-- Two auditors that see the same in every header give the same account of a directory. -/
theorem survey_congr (hheaders : b.headers w = a.headers w)
    (h : ∀ files, a.headers w = .ok files → ∀ file ∈ files, b.inspect w file = a.inspect w file) :
    (b.survey w).audits = (a.survey w).audits ∧
    (b.survey w).auditor.stats = (a.survey w).auditor.stats ∧
    (b.survey w).warnings = (a.survey w).warnings := by
  cases hf : a.headers w with
  | error problem =>
    rw [survey, survey, hheaders, hf]
    exact ⟨rfl, rfl, rfl⟩
  | ok files =>
    have hinspect : files.map (b.inspect w) = files.map (a.inspect w) :=
      List.map_congr_left (h files hf)
    have hfresh : b.fresh.stats = a.fresh.stats := rfl
    have hstats := foldl_record_stats hfresh (files.map (a.inspect w))
    rw [survey, survey, hheaders, hf]
    simp only [surveyFiles, hinspect, hstats, and_self]

/-- Keys that end otherwise than any key of a member are as good as none. -/
theorem survey_of_idle_keys (h : ∀ key ∈ keys, endsInWord key.shown = false) (w : Workspace)
    (root : String) (recursive : Bool) :
    let a : Auditor := { config := { root, recursive, keys } }
    let b : Auditor := { config := { root, recursive, keys := .empty } }
    (a.survey w).audits = (b.survey w).audits ∧
    (a.survey w).auditor.stats = (b.survey w).auditor.stats ∧
    (a.survey w).warnings = (b.survey w).warnings := by
  intro a b
  have hheaders : b.headers w = a.headers w := rfl
  have hinspect : ∀ files, a.headers w = .ok files → ∀ file ∈ files,
      b.inspect w file = a.inspect w file := by
    intro files hfiles file hfile
    apply inspect_empty
    intro p hp
    have hfound : p ∈ a.findings w := by
      rw [findings_of_headers hfiles]
      exact List.mem_flatMap.2 ⟨file, hfile, hp⟩
    exact suppressingKey?_eq_none h hfound
  obtain ⟨haudits, hstats, hwarnings⟩ := survey_congr hheaders hinspect
  exact ⟨haudits.symm, hstats.symm, hwarnings.symm⟩

end Auditor

theorem KeySet.unused_eq_nil (h : ∀ key ∈ keys, isComment key = true) (matched : KeySet) :
    keys.unused matched = [] := by
  rw [unused, List.map_eq_nil_iff, List.filter_eq_nil_iff]
  intro key hkey
  simp [h key hkey]

namespace Suppressions

theorem load_create {w : Workspace} (h : (create w path).2 = .ok ()) :
    load (create w path).1 (some path) = (.ofList template, []) := by
  rw [create, FileSystem.writeText, UnitText.toUTF8_ofString] at h ⊢
  apply load_of_read
  refine read_eq_ok_iff.2 ⟨_, Workspace.read_write h, ?_⟩
  rw [decodeLenient_toUTF8]
  exact lists_render template

theorem toList_ofList_template : (KeySet.ofList template).toList = template := by
  rw [KeySet.toList_ofList]
  simp [template, List.eraseDups_cons]

theorem endsInWord_of_mem_template {key : UnitText} (h : key ∈ KeySet.ofList template) :
    endsInWord key.shown = false := by
  have hall : ∀ key ∈ template, endsInWord key.shown = false := by
    simp only [template, List.forall_mem_cons, UnitText.shown_ofString]
    decide
  exact hall key (KeySet.mem_ofList.1 h)

theorem isComment_of_mem_template {key : UnitText} (h : key ∈ KeySet.ofList template) :
    isComment key = true := by
  have hall : ∀ key ∈ template, isComment key = true := by
    simp only [template, List.forall_mem_cons, isComment, UnitText.shown_ofString]
    decide
  exact hall key (KeySet.mem_ofList.1 h)

end Suppressions

/-- A template that has been created loads as it is and without a warning. As a set of keys it makes
no difference to any survey, and none of it is reported as unused. -/
theorem template_suppresses_nothing {w : Workspace} (h : (Suppressions.create w path).2 = .ok ()) :
    ∃ keys : KeySet, Suppressions.load (Suppressions.create w path).1 (some path) = (keys, []) ∧
      keys.toList = Suppressions.template ∧
      ∀ (v : Workspace) (root : String) (recursive : Bool),
        let a : Auditor := { config := { root, recursive, keys } }
        let b : Auditor := { config := { root, recursive, keys := .empty } }
        (a.survey v).audits = (b.survey v).audits ∧
        (a.survey v).auditor.stats = (b.survey v).auditor.stats ∧
        (a.survey v).warnings = (b.survey v).warnings ∧
        (a.survey v).auditor.unused = [] := by
  refine ⟨_, Suppressions.load_create h, Suppressions.toList_ofList_template, ?_⟩
  intro v root recursive a b
  obtain ⟨haudits, hstats, hwarnings⟩ := Auditor.survey_of_idle_keys
    (fun key hkey => Suppressions.endsInWord_of_mem_template hkey) v root recursive
  refine ⟨haudits, hstats, hwarnings, ?_⟩
  rw [Auditor.survey_unused]
  exact KeySet.unused_eq_nil (fun key hkey => Suppressions.isComment_of_mem_template hkey) _

theorem template_suppresses_no_bare_member :
    let w := Workspace.oneHeader "UPROPERTY()\nFGuid Id;"
    (Suppressions.create w "keys.json").2 = .ok () ∧
      ∃ keys : KeySet,
        Suppressions.load (Suppressions.create w "keys.json").1 (some "keys.json") = (keys, []) ∧
        keys.toList = Suppressions.template ∧
        (({ config := { root := ".", keys } } : Auditor).survey w).audits =
          .ok [auditContent "A.h" "UPROPERTY()\nFGuid Id;" .empty] := by
  have hempty : (FileSystem.write (Workspace.oneHeader "UPROPERTY()\nFGuid Id;") .reached
      "keys.json" .empty).2 = .ok () := rfl
  intro w
  have h : (Suppressions.create w "keys.json").2 = .ok () := by
    rw [Suppressions.create, FileSystem.writeText,
      Workspace.write_result rfl .reached "keys.json" _ .empty]
    exact hempty
  have hread : readHeader w "A.h" = .ok "UPROPERTY()\nFGuid Id;" :=
    readHeader_eq_ok_iff.2 ⟨_, Workspace.oneHeader_read _, by decide⟩
  have hfound : (auditContent "A.h" "UPROPERTY()\nFGuid Id;" .empty).found ≠ [] := by decide
  have hfiles : ({ config := { root := "." } } : Auditor).headers w = .ok ["A.h"] :=
    Workspace.oneHeader_headers _
  obtain ⟨keys, hload, hkeys, hsurvey⟩ := template_suppresses_nothing h
  refine ⟨h, keys, hload, hkeys, ?_⟩
  rw [(hsurvey w "." true).1, Auditor.survey_audits hfiles]
  simp [Auditor.inspect, inspect, hread, Inspection.audit?, Except.toOption, hfound]

end GuidAudit
