import GuidAudit.Proofs.Search

namespace GuidAudit

variable {d d' : Disk} {l l' place : Location} {n : Name} {e : Entry} {w : Workspace}
variable {p : Path} {path : String} {bytes : ByteArray}

namespace Disk

/-- The bytes of the file at a location, if there is a file. -/
def bytesAt? (d : Disk) (l : Location) : Option ByteArray :=
  match d.entryAt? l with
  | some (.file bytes) => some bytes
  | _ => none

/-- A disk with all that another one has, and with nothing new but directories. -/
structure GrowsTo (d d' : Disk) : Prop where
  kept : ∀ l e, d.entryAt? l = some e → d'.entryAt? l = some e
  added : ∀ l e, d'.entryAt? l = some e → d.entryAt? l = some e ∨ e = .directory

theorem GrowsTo.refl (d : Disk) : d.GrowsTo d := ⟨fun _ _ h => h, fun _ _ h => .inl h⟩

theorem GrowsTo.trans {d'' : Disk} (h : d.GrowsTo d') (h' : d'.GrowsTo d'') : d.GrowsTo d'' where
  kept := fun l e he => h'.kept l e (h.kept l e he)
  added := by
    intro l e he
    rcases h'.added l e he with he | he
    · exact h.added l e he
    · exact .inr he

theorem GrowsTo.bytesAt?_eq (h : d.GrowsTo d') (l : Location) : d'.bytesAt? l = d.bytesAt? l := by
  cases hl : d.entryAt? l with
  | some e => rw [bytesAt?, bytesAt?, h.kept l e hl, hl]
  | none =>
    cases hl' : d'.entryAt? l with
    | none => rw [bytesAt?, bytesAt?, hl, hl']
    | some e =>
      rcases h.added l e hl' with he | rfl
      · rw [hl] at he
        cases he
      · rw [bytesAt?, bytesAt?, hl, hl']

theorem growsTo_addDirectory (d : Disk) (n : Name) (l : Location) :
    d.GrowsTo (d.addDirectory n l) := by
  unfold addDirectory
  split
  · constructor
    · intro place e he
      rw [entryAt?_eq_some_iff] at he ⊢
      exact List.mem_cons_of_mem _ he
    · intro place e he
      rw [entryAt?_eq_some_iff] at he ⊢
      rcases List.mem_cons.1 he with he | he
      · exact .inr (Prod.mk.inj he).2
      · exact .inl he
  · exact .refl d

theorem growsTo_makeDirectories (d : Disk) (l : Location) : d.GrowsTo (d.makeDirectories l).1 := by
  induction l with
  | nil => exact .refl d
  | cons n l ih =>
    unfold makeDirectories
    split
    · exact .refl d
    · exact .refl d
    · split
      · rename_i made error hmade
        rw [hmade] at ih
        exact ih
      · rename_i made hmade
        rw [hmade] at ih
        split
        · exact ih.trans (made.growsTo_addDirectory n l)
        · exact ih

theorem step_eq_ok_iff {s : PathStep} : d.step l s = .ok l' ↔
    d.entryAt? l = some .directory ∧ s.isStorable = true ∧
      (d.entryAt? (l.step s)).isSome = true ∧ l' = l.step s := by
  constructor
  · intro h
    unfold step at h
    split at h
    · cases h
    · cases h
    · rename_i hdirectory
      split at h
      · cases h
      · rename_i hs
        split at h
        · rename_i hsome
          cases h
          exact ⟨hdirectory, by simpa using hs, hsome, rfl⟩
        · cases h
  · intro h
    obtain ⟨hdirectory, hs, hsome, rfl⟩ := h
    simp [step, hdirectory, hs, hsome]

/-- There is a directory for a file to lie in, and none in its place. -/
structure Takes (d : Disk) (n : Name) (l : Location) : Prop where
  directory : d.entryAt? l = some .directory
  free : d.entryAt? (n :: l) ≠ some .directory
  storable : n.isStorable = true

namespace Takes

variable (h : d.Takes n l)
include h

theorem entryAt?_putFile (bytes : ByteArray) (place : Location) :
    (d.putFile n l bytes).entryAt? place =
      if place = n :: l then some (.file bytes) else d.entryAt? place := by
  rw [putFile, dif_pos ⟨h.directory, h.free, h.storable⟩]
  apply Option.ext
  intro e
  rw [entryAt?_eq_some_iff]
  split
  · rename_i hplace
    subst hplace
    simp [eq_comm]
  · rename_i hplace
    simp [hplace, entryAt?_eq_some_iff]

theorem bytesAt?_putFile_of_ne (bytes : ByteArray) (hplace : place ≠ n :: l) :
    (d.putFile n l bytes).bytesAt? place = d.bytesAt? place := by
  rw [bytesAt?, bytesAt?, h.entryAt?_putFile, if_neg hplace]

theorem putFile (bytes : ByteArray) : (d.putFile n l bytes).Takes n l := by
  constructor
  · rw [h.entryAt?_putFile, if_neg (List.cons_ne_self n l).symm]
    exact h.directory
  · rw [h.entryAt?_putFile, if_pos rfl]
    nofun
  · exact h.storable

/-- Every step that could be taken before a file was put somewhere can be taken afterwards. -/
theorem step_putFile {s : PathStep} (bytes : ByteArray) (hstep : d.step place s = .ok l') :
    (d.putFile n l bytes).step place s = .ok l' := by
  obtain ⟨hplace, hs, hsome, rfl⟩ := step_eq_ok_iff.1 hstep
  refine step_eq_ok_iff.2 ⟨?_, hs, ?_, rfl⟩
  · rw [h.entryAt?_putFile, if_neg]
    · exact hplace
    · rintro rfl
      exact h.free hplace
  · rw [h.entryAt?_putFile]
    split
    · rfl
    · exact hsome

theorem walk_putFile {steps : List PathStep} (bytes : ByteArray)
    (hwalk : d.walk place steps = .ok l') : (d.putFile n l bytes).walk place steps = .ok l' := by
  induction steps generalizing place with
  | nil => exact hwalk
  | cons s steps ih =>
    unfold walk at hwalk ⊢
    split at hwalk
    · cases hwalk
    · rename_i next hnext
      rw [h.step_putFile bytes hnext]
      exact ih hwalk

end Takes

theorem walk_append {steps steps' : List PathStep} (h : d.walk l steps = .ok l') :
    d.walk l (steps ++ steps') = d.walk l' steps' := by
  induction steps generalizing l with
  | nil =>
    cases h
    rfl
  | cons s steps ih =>
    unfold walk at h
    rw [List.cons_append, walk]
    split at h
    · cases h
    · rename_i next hnext
      exact ih h

end Disk

namespace Workspace

/-- The directory to which a path leads, and the name of a file that can be written there. -/
structure Opens (w : Workspace) (p : Path) (n : Name) (l : Location) : Prop extends
    w.disk.Takes n l where
  walk : w.disk.walk (w.start p) p.steps.dropLast = .ok l
  last : p.steps.getLast? = some (.child n)
  plain : p.trailingSlash = false

theorem opens_of_target (h : w.target p = .ok (n, l)) : w.Opens p n l := by
  unfold target at h
  split at h
  · cases h
  split at h
  · cases h
  rename_i place hwalk
  split at h
  · cases h
  · cases h
  · rename_i name hdirectory hlast
    split at h
    · cases h
    · rename_i hfree
      split at h
      · rename_i hstorable
        cases h
        simp only [Bool.or_eq_true, decide_eq_true_eq, not_or, Bool.not_eq_true] at hfree
        exact ⟨⟨hdirectory, hfree.2, hstorable⟩, hwalk, hlast, hfree.1⟩
      · cases h
  · cases h

namespace Opens

variable (h : w.Opens p n l)
include h

theorem steps_eq : p.steps = p.steps.dropLast ++ [.child n] := by
  obtain ⟨before, hsteps⟩ := List.getLast?_eq_some_iff.1 h.last
  rw [hsteps, List.dropLast_concat]

theorem locate_eq : w.locate p = n :: l := by
  rw [locate, h.steps_eq, List.foldl_append, ← Disk.walk_eq_ok h.walk]
  rfl

theorem putFile (bytes : ByteArray) :
    ({ w with disk := w.disk.putFile n l bytes } : Workspace).Opens p n l where
  toTakes := h.toTakes.putFile bytes
  walk := h.walk_putFile bytes h.walk
  last := h.last
  plain := h.plain

theorem target_eq : w.target p = .ok (n, l) := by
  have hempty : p.isEmpty = false := by
    rw [Path.isEmpty, h.steps_eq]
    simp
  have hfree :
      (p.trailingSlash || decide (w.disk.entryAt? (n :: l) = some .directory)) = false := by
    simp [h.plain, h.free]
  rw [target, hempty]
  simp only [h.walk, h.directory, h.last, hfree, h.storable]
  rfl

theorem reach_putFile (bytes : ByteArray) :
    ({ w with disk := w.disk.putFile n l bytes } : Workspace).reach p = .ok (.file bytes) := by
  have hfile : (w.disk.putFile n l bytes).entryAt? (n :: l) = some (.file bytes) := by
    rw [h.entryAt?_putFile, if_pos rfl]
  have hstep : (w.disk.putFile n l bytes).step l (.child n) = .ok (n :: l) := by
    refine Disk.step_eq_ok_iff.2 ⟨(h.toTakes.putFile bytes).directory, h.storable, ?_, rfl⟩
    exact Option.isSome_of_eq_some hfile
  have hwalk : (w.disk.putFile n l bytes).walk (w.start p) p.steps = .ok (n :: l) := by
    rw [h.steps_eq, Disk.walk_append (h.walk_putFile bytes h.walk), Disk.walk, hstep]
    rfl
  have hempty : p.isEmpty = false := by
    rw [Path.isEmpty, h.steps_eq]
    simp
  have hstart : ({ w with disk := w.disk.putFile n l bytes } : Workspace).start p = w.start p := rfl
  rw [reach, hempty]
  simp only [hstart, hwalk, hfile, h.plain]
  rfl

end Opens

theorem makeDirectories_growsTo (w : Workspace) (blame : Blame) (wanted : Location) :
    ∃ d, w.disk.GrowsTo d ∧ (w.makeDirectories blame wanted).1 = { w with disk := d } := by
  have hgrows := w.disk.growsTo_makeDirectories wanted
  simp only [makeDirectories]
  cases checkedPath wanted.text (.makeDirectory wanted.text) with
  | error error => exact ⟨w.disk, .refl _, rfl⟩
  | ok p =>
    refine ⟨_, hgrows, ?_⟩
    obtain ⟨disk, result⟩ := w.disk.makeDirectories wanted
    cases result with
    | ok => rfl
    | error blockage => cases blockage <;> rfl

/-- What putting bytes at a path can do. Which bytes they are makes no difference. -/
theorem put_cases (w : Workspace) (path : String) :
    (∃ error, ∀ bytes, w.put path bytes = (w, .error error)) ∨
      ∃ p n l, checkedPath path (.openFile path) = .ok p ∧ w.Opens p n l ∧
        ∀ bytes, w.put path bytes = ({ w with disk := w.disk.putFile n l bytes }, .ok ()) := by
  cases hp : checkedPath path (.openFile path) with
  | error error => exact .inl ⟨error, fun bytes => by rw [put, hp]⟩
  | ok p =>
    cases ht : w.target p with
    | error cause =>
      exact .inl ⟨.failed cause (.openFile path), fun bytes => by simp only [put, hp, ht]⟩
    | ok place =>
      obtain ⟨n, l⟩ := place
      exact .inr ⟨p, n, l, rfl, opens_of_target ht, fun bytes => by simp only [put, hp, ht]⟩

theorem Opens.put_eq (h : w.Opens p n l) (hp : checkedPath path (.openFile path) = .ok p)
    (bytes : ByteArray) :
    w.put path bytes = ({ w with disk := w.disk.putFile n l bytes }, .ok ()) := by
  simp only [put, hp, h.target_eq]

theorem Opens.fill_eq (h : w.Opens p n l) (hp : checkedPath path (.openFile path) = .ok p)
    (bytes : ByteArray) :
    w.fill path bytes = ({ w with disk := w.disk.putFile n l (w.stored bytes) },
      if w.fits bytes then .ok () else .error (.failed .fileTooLarge .writeBytes)) := by
  simp only [fill, h.put_eq hp]
  split <;> rfl

/-- What opening a file can do: it adds directories at most, or after that puts an empty file in its
place. -/
theorem openFile_cases (w : Workspace) (blame : Blame) (path : String) :
    ∃ d, w.disk.GrowsTo d ∧
      ((∃ error, FileSystem.openFile w blame path = ({ w with disk := d }, .error error)) ∨
        ∃ p n l, checkedPath path (.openFile path) = .ok p ∧
          ({ w with disk := d } : Workspace).Opens p n l ∧
          FileSystem.openFile w blame path =
            ({ w with disk := d.putFile n l .empty }, .ok ())) := by
  obtain ⟨d, hgrows, hmade⟩ := w.makeDirectories_growsTo blame (w.locate (.ofText path)).tail
  refine ⟨d, hgrows, ?_⟩
  rw [FileSystem.openFile, makeParent_eq, makeParent]
  split
  · rename_i made error he
    rw [he] at hmade
    cases hmade
    exact .inl ⟨error, rfl⟩
  · rename_i made he
    rw [he] at hmade
    cases hmade
    rw [openNew_eq, openNew]
    rcases put_cases { w with disk := d } path with ⟨error, hput⟩ | ⟨p, n, l, hp, hopens, hput⟩
    · exact .inl ⟨error, hput .empty⟩
    · exact .inr ⟨p, n, l, hp, hopens, hput .empty⟩

/-- What writing a file can do: it fails to open it, or puts as many bytes in its place as the limit
allows. -/
theorem write_cases (w : Workspace) (blame : Blame) (path : String) :
    ∃ d, w.disk.GrowsTo d ∧
      ((∃ error, ∀ bytes, FileSystem.write w blame path bytes =
          ({ w with disk := d }, .error error)) ∨
        ∃ p n l, checkedPath path (.openFile path) = .ok p ∧
          ({ w with disk := d } : Workspace).Opens p n l ∧
          ∀ bytes, FileSystem.write w blame path bytes =
            ({ w with disk := (d.putFile n l .empty).putFile n l (w.stored bytes) },
              if w.fits bytes then .ok ()
              else .error (.failed .fileTooLarge .writeBytes))) := by
  obtain ⟨d, hgrows, ⟨error, hopen⟩ | ⟨p, n, l, hp, hopens, hopen⟩⟩ := w.openFile_cases blame path
  · refine ⟨d, hgrows, .inl ⟨error, fun bytes => ?_⟩⟩
    rw [FileSystem.write, hopen]
  · refine ⟨d, hgrows, .inr ⟨p, n, l, hp, hopens, fun bytes => ?_⟩⟩
    have hfill := (hopens.putFile .empty).fill_eq hp bytes
    rw [FileSystem.write, hopen]
    exact hfill

/-- Where files may have any size, what is to be written makes no difference to whether it can
be. -/
theorem write_result (hw : w.sizeLimit = none) (blame : Blame) (path : String)
    (bytes bytes' : ByteArray) :
    (FileSystem.write w blame path bytes).2 = (FileSystem.write w blame path bytes').2 := by
  have hfits (bytes : ByteArray) : w.fits bytes = true := by rw [fits, hw]
  obtain ⟨d, _, ⟨error, hwrite⟩ | ⟨p, n, l, _, _, hwrite⟩⟩ := w.write_cases blame path
  · rw [hwrite, hwrite]
  · rw [hwrite, hwrite, if_pos (hfits bytes), if_pos (hfits bytes')]

/-- Where something has been written, any other bytes would be there as far as the limit allows. -/
theorem read_write_stored {blame : Blame} {bytes' : ByteArray}
    (h : (FileSystem.write w blame path bytes').2 = .ok ()) (bytes : ByteArray) :
    (FileSystem.write w blame path bytes).1.read path = .ok (w.stored bytes) ∧
      ((FileSystem.write w blame path bytes).2 = .ok () ↔ w.fits bytes = true) := by
  obtain ⟨d, _, ⟨error, hwrite⟩ | ⟨p, n, l, hp, hopens, hwrite⟩⟩ := w.write_cases blame path
  · rw [hwrite] at h
    cases h
  · have hreach := (hopens.putFile .empty).reach_putFile (w.stored bytes)
    rw [hwrite]
    constructor
    · rw [read, hp]
      simp only [hreach]
    · cases w.fits bytes <;> simp

/-- What has been written can be read. -/
theorem read_write {blame : Blame} (h : (FileSystem.write w blame path bytes).2 = .ok ()) :
    (FileSystem.write w blame path bytes).1.read path = .ok bytes := by
  obtain ⟨hread, hfits⟩ := read_write_stored h bytes
  rw [hread, stored_of_fits (hfits.1 h)]

end Workspace

end GuidAudit
