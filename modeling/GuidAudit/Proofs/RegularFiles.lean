import GuidAudit.Proofs.Writing

namespace GuidAudit

/-- The regular files of a file system, by whatever paths they are reached, and what the program
relies on: no operation changes another file than the one that its path leads to, a file that cannot
be opened stays as it is, and one that has been written holds what was written. -/
class RegularFiles (σ : Type) [FileSystem σ] where
  File : Type
  /-- The regular file that a path leads to. -/
  fileAt? : σ → String → Option File
  /-- What a file holds, if it exists. -/
  bytes? : σ → File → Option ByteArray
  bytes?_of_read : ∀ {w : σ} {path : String} {f : File} {bytes : ByteArray},
    fileAt? w path = some f → FileSystem.read w path = .ok bytes → bytes? w f = some bytes
  bytes?_makeParent : ∀ (w : σ) (blame : Blame) (path : String) (f : File),
    bytes? (FileSystem.makeParent w blame path).1 f = bytes? w f
  bytes?_openNew_of_error : ∀ {w : σ} {path : String} {error : DiskError} (f : File),
    (FileSystem.openNew w path).2 = .error error →
    bytes? (FileSystem.openNew w path).1 f = bytes? w f
  bytes?_openNew_of_ne : ∀ {w : σ} {path : String} {f : File},
    fileAt? (FileSystem.openNew w path).1 path ≠ some f →
    bytes? (FileSystem.openNew w path).1 f = bytes? w f
  fileAt?_fill : ∀ {w : σ} {path : String} (bytes : ByteArray),
    (FileSystem.openNew w path).2 = .ok () →
    fileAt? (FileSystem.fill (FileSystem.openNew w path).1 path bytes).1 path =
      fileAt? (FileSystem.openNew w path).1 path
  bytes?_fill_of_ne : ∀ {w : σ} {path : String} (bytes : ByteArray) {f : File},
    (FileSystem.openNew w path).2 = .ok () →
    fileAt? (FileSystem.openNew w path).1 path ≠ some f →
    bytes? (FileSystem.fill (FileSystem.openNew w path).1 path bytes).1 f =
      bytes? (FileSystem.openNew w path).1 f
  bytes?_fill : ∀ {w : σ} {path : String} {bytes : ByteArray} {f : File},
    (FileSystem.openNew w path).2 = .ok () →
    fileAt? (FileSystem.openNew w path).1 path = some f →
    (FileSystem.fill (FileSystem.openNew w path).1 path bytes).2 = .ok () →
    bytes? (FileSystem.fill (FileSystem.openNew w path).1 path bytes).1 f = some bytes

namespace RegularFiles

variable {σ : Type} [FileSystem σ] [RegularFiles σ] {w : σ} {blame : Blame} {path : String}
variable {bytes : ByteArray} {f : File σ}

/-- A write fails before the file is open, or goes on to fill the file that has been opened. -/
theorem write_cases (w : σ) (blame : Blame) (path : String) (bytes : ByteArray) :
    (∃ error, (FileSystem.openFile w blame path).2 = .error error ∧
      (FileSystem.write w blame path bytes).2 = .error error ∧
      ∀ f : File σ, bytes? (FileSystem.write w blame path bytes).1 f = bytes? w f) ∨
    ∃ w' : σ, (∀ f : File σ, bytes? w' f = bytes? w f) ∧
      (FileSystem.openNew w' path).2 = .ok () ∧ (FileSystem.openFile w blame path).2 = .ok () ∧
      FileSystem.write w blame path bytes =
        FileSystem.fill (FileSystem.openNew w' path).1 path bytes := by
  have hparent := bytes?_makeParent w blame path
  rcases hmade : FileSystem.makeParent w blame path with ⟨w', made⟩
  rw [hmade] at hparent
  cases made with
  | error error =>
    have hopen : FileSystem.openFile w blame path = (w', .error error) := by
      simp only [FileSystem.openFile, hmade]
    refine .inl ⟨error, ?_⟩
    simp only [FileSystem.write, hopen]
    exact ⟨trivial, trivial, hparent⟩
  | ok =>
    have hopen : FileSystem.openFile w blame path = FileSystem.openNew w' path := by
      simp only [FileSystem.openFile, hmade]
    rcases hopened : FileSystem.openNew w' path with ⟨opened, result⟩
    cases result with
    | error error =>
      have hfails : (FileSystem.openNew w' path).2 = .error error := by rw [hopened]
      have hkept := fun f => bytes?_openNew_of_error f hfails
      rw [hopened] at hkept
      refine .inl ⟨error, ?_⟩
      simp only [FileSystem.write, hopen, hopened]
      exact ⟨trivial, trivial, fun f => (hkept f).trans (hparent f)⟩
    | ok =>
      refine .inr ⟨w', hparent, by rw [hopened], by rw [hopen, hopened], ?_⟩
      simp only [FileSystem.write, hopen, hopened]

/-- A write changes no file but the one that its path leads to afterwards. -/
theorem bytes?_write_of_ne
    (h : fileAt? (FileSystem.write w blame path bytes).1 path ≠ some f) :
    bytes? (FileSystem.write w blame path bytes).1 f = bytes? w f := by
  rcases write_cases w blame path bytes with ⟨_, _, _, hkept⟩ | ⟨w', hparent, hopen, _, hwrite⟩
  · exact hkept f
  · rw [hwrite, fileAt?_fill bytes hopen] at h
    rw [hwrite, bytes?_fill_of_ne bytes hopen h, bytes?_openNew_of_ne h, hparent]

/-- A file that cannot be opened is not written to. -/
theorem bytes?_write_of_openFile_error {error : DiskError}
    (h : (FileSystem.openFile w blame path).2 = .error error) (f : File σ) :
    bytes? (FileSystem.write w blame path bytes).1 f = bytes? w f := by
  rcases write_cases w blame path bytes with ⟨_, _, _, hkept⟩ | ⟨_, _, _, hopen, _⟩
  · exact hkept f
  · rw [h] at hopen
    cases hopen

theorem bytes?_write (h : (FileSystem.write w blame path bytes).2 = .ok ())
    (hf : fileAt? (FileSystem.write w blame path bytes).1 path = some f) :
    bytes? (FileSystem.write w blame path bytes).1 f = some bytes := by
  rcases write_cases w blame path bytes with ⟨_, _, herror, _⟩ | ⟨w', _, hopen, _, hwrite⟩
  · rw [herror] at h
    cases h
  · rw [hwrite] at h
    rw [hwrite, fileAt?_fill bytes hopen] at hf
    rw [hwrite]
    exact bytes?_fill hopen hf h

end RegularFiles

namespace Workspace

variable {w : Workspace} {p : Path} {path : String} {n : Name} {l : Location} {bytes : ByteArray}

/-- Links are unknown to a workspace, so that a file is where its path says. -/
def fileAt? (w : Workspace) (path : String) : Option Location :=
  match w.entryAt? path with
  | some (.file _) => some (w.locate (.ofText path))
  | _ => none

theorem fileAt?_eq_some_iff {place : Location} : w.fileAt? path = some place ↔
    place = w.locate (.ofText path) ∧ ∃ bytes, w.entryAt? path = some (.file bytes) := by
  unfold fileAt?
  split
  · rename_i bytes hentry
    simp [hentry, eq_comm]
  · rename_i hentry
    constructor
    · nofun
    · rintro ⟨_, bytes, hbytes⟩
      exact absurd hbytes (hentry bytes)

theorem Opens.fileAt?_putFile (h : w.Opens p n l)
    (hp : checkedPath path (.openFile path) = .ok p) (bytes : ByteArray) :
    ({ w with disk := w.disk.putFile n l bytes } : Workspace).fileAt? path = some (n :: l) := by
  have hentry : ({ w with disk := w.disk.putFile n l bytes } : Workspace).entryAt? path =
      some (.file bytes) := by
    rw [entryAt?, hp]
    simp only [h.reach_putFile bytes, Except.toOption]
  refine fileAt?_eq_some_iff.2 ⟨?_, bytes, hentry⟩
  rw [← checkedPath_eq_ok hp, (h.putFile bytes).locate_eq]

/-- A file that has been opened for writing can be filled. -/
theorem exists_opens_of_openNew (h : (w.openNew path).2 = .ok ()) :
    ∃ p n l, checkedPath path (.openFile path) = .ok p ∧ w.Opens p n l ∧
      (w.openNew path).1 = { w with disk := w.disk.putFile n l .empty } := by
  rcases w.put_cases path with ⟨error, hput⟩ | ⟨p, n, l, hp, hopens, hput⟩
  · rw [openNew, hput] at h
    cases h
  · exact ⟨p, n, l, hp, hopens, by rw [openNew, hput]⟩

instance : RegularFiles Workspace where
  File := Location
  fileAt? := fileAt?
  bytes? w l := w.disk.bytesAt? l
  bytes?_of_read := by
    intro w path place bytes hplace hread
    obtain ⟨rfl, _⟩ := fileAt?_eq_some_iff.1 hplace
    rw [Disk.bytesAt?, entryAt?_locate (read_eq_ok_iff.1 hread)]
  bytes?_makeParent := by
    intro w blame path place
    obtain ⟨d, hgrows, hmade⟩ := w.makeDirectories_growsTo blame (w.locate (.ofText path)).tail
    rw [makeParent_eq, makeParent, hmade]
    exact hgrows.bytesAt?_eq place
  bytes?_openNew_of_error := by
    intro w path error place h
    rw [openNew_eq, openNew] at h ⊢
    rcases w.put_cases path with ⟨_, hput⟩ | ⟨_, _, _, _, _, hput⟩
    · rw [hput]
    · rw [hput] at h
      cases h
  bytes?_openNew_of_ne := by
    intro w path place h
    rw [openNew_eq, openNew] at h ⊢
    rcases w.put_cases path with ⟨_, hput⟩ | ⟨p, n, l, hp, hopens, hput⟩
    · rw [hput]
    · rw [hput, hopens.fileAt?_putFile hp] at h
      rw [hput]
      exact hopens.bytesAt?_putFile_of_ne _ fun he => h (congrArg some he.symm)
  fileAt?_fill := by
    intro w path bytes h
    obtain ⟨p, n, l, hp, hopens, hopened⟩ := exists_opens_of_openNew h
    rw [openNew_eq, fill_eq, hopened, (hopens.putFile .empty).fill_eq hp]
    rw [(hopens.putFile .empty).fileAt?_putFile hp, hopens.fileAt?_putFile hp]
  bytes?_fill_of_ne := by
    intro w path bytes place h hne
    obtain ⟨p, n, l, hp, hopens, hopened⟩ := exists_opens_of_openNew h
    rw [openNew_eq, hopened, hopens.fileAt?_putFile hp] at hne
    rw [openNew_eq, fill_eq, hopened, (hopens.putFile .empty).fill_eq hp]
    exact (hopens.putFile .empty).bytesAt?_putFile_of_ne _ fun he => hne (congrArg some he.symm)
  bytes?_fill := by
    intro w path bytes place h hplace hfill
    obtain ⟨p, n, l, hp, hopens, hopened⟩ := exists_opens_of_openNew h
    rw [openNew_eq, hopened, hopens.fileAt?_putFile hp] at hplace
    obtain rfl := Option.some.inj hplace
    rw [openNew_eq, fill_eq, hopened, (hopens.putFile .empty).fill_eq hp] at hfill ⊢
    have hfits : w.fits bytes = true := by
      apply Classical.byContradiction
      intro hfits
      exact absurd ((if_neg hfits).symm.trans hfill) nofun
    change ((w.disk.putFile n l .empty).putFile n l (w.stored bytes)).bytesAt? (n :: l) = some bytes
    rw [Disk.bytesAt?, (hopens.putFile .empty).entryAt?_putFile, if_pos rfl, stored_of_fits hfits]

end Workspace

end GuidAudit
