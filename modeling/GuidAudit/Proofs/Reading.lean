import GuidAudit.Audit
import GuidAudit.Proofs.RegularFiles
import GuidAudit.Proofs.Utf8

namespace GuidAudit

variable {σ : Type} [FileSystem σ] {w : σ} {path content : String} {bytes : ByteArray}

theorem decodeStrict?_eq_some_iff : decodeStrict? bytes = some content ↔
    ∃ text : String, bytes = text.toUTF8 ∧
      content = String.ofList (dropByteOrderMark text.toList) := by
  constructor
  · intro h
    obtain ⟨text, ht, rfl⟩ := Option.map_eq_some_iff.1 h
    have hbytes : bytes = text.toUTF8 := by
      unfold String.fromUTF8? at ht
      split at ht
      · cases ht
        rfl
      · cases ht
    exact ⟨text, hbytes, rfl⟩
  · intro h
    obtain ⟨text, rfl, rfl⟩ := h
    exact decodeStrict?_toUTF8 text

theorem eq_toUTF8_iff {text : String} :
    bytes = text.toUTF8 ↔ bytes.data.toList = text.toList.flatMap String.utf8EncodeChar := by
  have htext : text.toUTF8 = (text.toList.flatMap String.utf8EncodeChar).toByteArray :=
    String.utf8Encode_toList.symm
  rw [htext, eq_toByteArray_iff]

/-- A text, and what is left of it without the one byte order mark that it may begin with. -/
def Unmarks (text content : List Char) : Prop :=
  text = '\ufeff' :: content ∨ (text.head? ≠ some '\ufeff' ∧ text = content)

theorem dropByteOrderMark_eq_iff {text content : List Char} :
    dropByteOrderMark text = content ↔ Unmarks text content := by
  have hmark : byteOrderMark = '\ufeff' := rfl
  cases text with
  | nil => simp [dropByteOrderMark, Unmarks]
  | cons c text =>
    by_cases hc : c = '\ufeff'
    · simp [dropByteOrderMark, Unmarks, hmark, hc]
    · simp [dropByteOrderMark, Unmarks, hmark, hc]

/-- Bytes that encode a text, of which what follows a byte order mark is given. -/
def Encodes (bytes : ByteArray) (content : String) : Prop :=
  ∃ text : List Char, bytes.data.toList = text.flatMap String.utf8EncodeChar ∧
    Unmarks text content.toList

theorem encodes_iff_decodeStrict? : Encodes bytes content ↔ decodeStrict? bytes = some content := by
  simp only [decodeStrict?_eq_some_iff, eq_toUTF8_iff]
  constructor
  · rintro ⟨text, hbytes, hcontent⟩
    refine ⟨String.ofList text, ?_, ?_⟩
    · rw [String.toList_ofList]
      exact hbytes
    · rw [String.toList_ofList, dropByteOrderMark_eq_iff.2 hcontent, String.ofList_toList]
  · rintro ⟨text, hbytes, rfl⟩
    exact ⟨text.toList, hbytes, dropByteOrderMark_eq_iff.1 String.toList_ofList.symm⟩

theorem exists_encodes_iff : (∃ content, Encodes bytes content) ↔ WellFormed bytes.data.toList := by
  constructor
  · rintro ⟨content, text, hbytes, _⟩
    exact wellFormed_iff.2 ⟨text, hbytes⟩
  · intro hbytes
    obtain ⟨text, htext⟩ := wellFormed_iff.1 hbytes
    refine ⟨String.ofList (dropByteOrderMark text), text, htext, ?_⟩
    exact dropByteOrderMark_eq_iff.1 String.toList_ofList.symm

theorem readHeader_eq_ok_iff_decodeStrict? : readHeader w path = .ok content ↔
    ∃ bytes, FileSystem.read w path = .ok bytes ∧ decodeStrict? bytes = some content := by
  rw [readHeader]
  cases FileSystem.read w path with
  | error error => simp
  | ok bytes =>
    simp only [Except.ok.injEq, exists_eq_left']
    cases decodeStrict? bytes <;> simp

theorem readHeader_eq_ok_iff : readHeader w path = .ok content ↔
    ∃ text : String, FileSystem.read w path = .ok text.toUTF8 ∧
      content = String.ofList (dropByteOrderMark text.toList) := by
  simp only [readHeader_eq_ok_iff_decodeStrict?, decodeStrict?_eq_some_iff]
  constructor
  · rintro ⟨_, hread, text, rfl, hcontent⟩
    exact ⟨text, hread, hcontent⟩
  · rintro ⟨text, hread, hcontent⟩
    exact ⟨_, hread, text, rfl, hcontent⟩

theorem exists_readHeader_iff : (∃ content, readHeader w path = .ok content) ↔
    ∃ bytes, FileSystem.read w path = .ok bytes ∧ WellFormed bytes.data.toList := by
  simp only [readHeader_eq_ok_iff_decodeStrict?, ← exists_encodes_iff, encodes_iff_decodeStrict?]
  constructor
  · rintro ⟨content, bytes, hread, hcontent⟩
    exact ⟨bytes, hread, content, hcontent⟩
  · rintro ⟨bytes, hread, content, hcontent⟩
    exact ⟨content, bytes, hread, hcontent⟩

theorem inspect_result_of_error {keys : KeySet} {problem : HeaderProblem}
    (h : readHeader w path = .error problem) : (inspect w keys path).result = .error problem := by
  simp only [inspect, h]

theorem RegularFiles.readHeader_writeText [RegularFiles σ] {blame : Blame} {text : UnitText}
    {f : RegularFiles.File σ} (h : (FileSystem.writeText w blame path text).2 = .ok ())
    (hf : fileAt? (FileSystem.writeText w blame path text).1 path = some f)
    (hread : FileSystem.read (FileSystem.writeText w blame path text).1 path = .ok bytes) :
    ∃ content, readHeader (FileSystem.writeText w blame path text).1 path = .ok content ∧
      Unmarks text.shown.toList content.toList := by
  have hbytes : bytes = text.shown.toUTF8 :=
    Option.some.inj ((bytes?_of_read hf hread).symm.trans (bytes?_write h hf))
  rw [hbytes] at hread
  refine ⟨String.ofList (dropByteOrderMark text.shown.toList), ?_, ?_⟩
  · exact readHeader_eq_ok_iff.2 ⟨text.shown, hread, rfl⟩
  · exact dropByteOrderMark_eq_iff.1 String.toList_ofList.symm

/-- A header is read exactly if it can be opened and its bytes are well-formed, which are those that
encode some text, and what is read is that text without one byte order mark at its beginning. Any
other header is skipped with one warning, and nothing else of it is remembered. A text that has been
written to a regular file is read back from there as far as it has characters. -/
theorem header_read_exactly_if_well_formed {σ : Type} [FileSystem σ] [RegularFiles σ] (w : σ)
    (path : String) :
    (∀ content, readHeader w path = .ok content ↔
      ∃ bytes, FileSystem.read w path = .ok bytes ∧ Encodes bytes content) ∧
    ((∃ content, readHeader w path = .ok content) ↔
      ∃ bytes, FileSystem.read w path = .ok bytes ∧ WellFormed bytes.data.toList) ∧
    (∀ problem, readHeader w path = .error problem →
      (problem.fault path).label = "FileAccessError" ∧ (problem.fault path).path? = some path ∧
      ∀ a : Auditor, (a.inspect w path).audit? = none ∧
        (a.inspect w path).warning? =
          some (.warning ("Could not read file " ++ path ++ ": " ++ problem.message)) ∧
        a.record (a.inspect w path) =
          { a with stats := { a.stats with skipped := a.stats.skipped + 1 } }) ∧
    ∀ (blame : Blame) (text : UnitText) (f : RegularFiles.File σ) (bytes : ByteArray),
      let written := (FileSystem.writeText w blame path text).1
      (FileSystem.writeText w blame path text).2 = .ok () →
      RegularFiles.fileAt? written path = some f → FileSystem.read written path = .ok bytes →
      ∃ content, readHeader written path = .ok content ∧
        Unmarks text.shown.toList content.toList ∧
        ∀ s : String, text = s → Unmarks s.toList content.toList := by
  refine ⟨?_, exists_readHeader_iff, ?_, ?_⟩
  · intro content
    simp only [readHeader_eq_ok_iff_decodeStrict?, encodes_iff_decodeStrict?]
  · intro problem herror
    refine ⟨rfl, rfl, fun a => ?_⟩
    have hresult : (a.inspect w path).result = .error problem := inspect_result_of_error herror
    refine ⟨?_, ?_, ?_⟩
    · rw [Inspection.audit?, hresult]
      rfl
    · rw [Inspection.warning?, hresult]
      rfl
    · rw [Auditor.record, hresult]
  · intro blame text f bytes written hwritten hfile hread
    obtain ⟨content, hcontent, hunmarks⟩ :=
      RegularFiles.readHeader_writeText hwritten hfile hread
    refine ⟨content, hcontent, hunmarks, ?_⟩
    rintro s rfl
    rwa [UnitText.shown_ofString] at hunmarks

/-- A zero that is written with two bytes is refused, and of two byte order marks one is kept. -/
theorem header_read_of_overlong_zero :
    let bytes : ByteArray := ⟨#[0xC0, 0x80]⟩
    let w : Workspace := { disk := Disk.empty.putFile ⟨"A.h", by decide⟩ [] bytes, current := [] }
    let text := "\ufeff\ufeffx"
    let written := (FileSystem.writeText w .wanted "A.h" text).1
    (w.read "A.h" = .ok bytes ∧ ¬ WellFormed bytes.data.toList ∧
      ∃ problem, readHeader w "A.h" = .error problem ∧
        (problem.fault "A.h").label = "FileAccessError") ∧
    (FileSystem.writeText w .wanted "A.h" text).2 = .ok () ∧
    (∃ place, written.fileAt? "A.h" = some place) ∧ written.read "A.h" = .ok text.toUTF8 ∧
    readHeader written "A.h" = .ok "\ufeffx" := by
  have hempty : (FileSystem.write ({
      disk := Disk.empty.putFile ⟨"A.h", by decide⟩ [] ⟨#[0xC0, 0x80]⟩
      current := [] } : Workspace) .wanted "A.h" .empty).2 = .ok () := rfl
  intro bytes w text written
  have hbytes : ¬ WellFormed bytes.data.toList := by decide
  have hwrite : (FileSystem.writeText w .wanted "A.h" text).2 = .ok () :=
    (Workspace.write_result rfl .wanted "A.h" _ .empty).trans hempty
  have hread : written.read "A.h" = .ok text.toUTF8 := by
    rw [← UnitText.toUTF8_ofString]
    exact Workspace.read_write hwrite
  have hfile : written.fileAt? "A.h" = some (written.locate (.ofText "A.h")) :=
    Workspace.fileAt?_eq_some_iff.2 ⟨rfl, _, Workspace.read_eq_ok_iff.1 hread⟩
  obtain ⟨_, hexists, herror, hback⟩ := header_read_exactly_if_well_formed w "A.h"
  obtain ⟨content, hcontent, _, hunmarks⟩ := hback .wanted text _ _ hwrite hfile hread
  have hchars : "\ufeff\ufeffx".toList = ['\ufeff', '\ufeff', 'x'] := by decide
  have htext : content = "\ufeffx" := by
    apply String.toList_inj.1
    rcases hunmarks text rfl with h | ⟨h, _⟩
    · rw [hchars] at h
      exact (List.cons.inj h).2.symm
    · rw [hchars] at h
      exact absurd rfl h
  refine ⟨⟨rfl, hbytes, ?_⟩, hwrite, ⟨_, hfile⟩, hread, htext ▸ hcontent⟩
  cases hheader : readHeader w "A.h" with
  | error problem => exact ⟨problem, rfl, (herror problem hheader).1⟩
  | ok content =>
    obtain ⟨_, hsame, hwell⟩ := hexists.1 ⟨content, hheader⟩
    cases hsame
    exact absurd hwell hbytes

/-- A surrogate without its partner is replaced when it is written. -/
theorem lone_surrogate_not_read_back :
    let w : Workspace := { disk := .empty, current := [] }
    let text : UnitText := ⟨[0xD800]⟩
    (FileSystem.writeText w .wanted "A.h" text).2 = .ok () ∧
      ∃ content : String,
        readHeader (FileSystem.writeText w .wanted "A.h" text).1 "A.h" = .ok content ∧
        (content : UnitText) ≠ text := by
  have hempty : (FileSystem.write ({ disk := .empty, current := [] } : Workspace)
      .wanted "A.h" .empty).2 = .ok () := rfl
  intro w text
  have hwrite : (FileSystem.writeText w .wanted "A.h" text).2 = .ok () :=
    (Workspace.write_result rfl .wanted "A.h" _ .empty).trans hempty
  refine ⟨hwrite, "\ufffd", ?_, by decide⟩
  exact readHeader_eq_ok_iff.2 ⟨text.shown, Workspace.read_write hwrite, by decide⟩

end GuidAudit
