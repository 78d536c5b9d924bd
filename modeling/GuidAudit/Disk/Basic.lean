import GuidAudit.Disk.Path

namespace GuidAudit

inductive Entry where
  | file (bytes : ByteArray)
  | directory

instance : DecidableEq Entry
  | .directory, .directory => isTrue rfl
  | .directory, .file _ => isFalse nofun
  | .file _, .directory => isFalse nofun
  | .file a, .file b =>
    match ByteArray.instDecidableEq a b with
    | isTrue h => isTrue (congrArg Entry.file h)
    | isFalse h => isFalse fun e => h (Entry.file.inj e)

/-- The entries of a tree, in no particular order. Each location has at most one, and whatever is
not the root lies in a directory, under a name that can be stored. -/
structure Disk where
  entries : List (Location × Entry)
  distinct : (entries.map (·.1)).Nodup
  root : ([], Entry.directory) ∈ entries
  rooted : ∀ n p e, (n :: p, e) ∈ entries → (p, Entry.directory) ∈ entries
  storable : ∀ n p e, (n :: p, e) ∈ entries → n.isStorable = true

namespace Disk

def empty : Disk where
  entries := [([], .directory)]
  distinct := by simp
  root := by simp
  rooted := by simp
  storable := by simp

/-- What is at a location. Most locations differ in depth, so depths are compared first. -/
def entryAt? (d : Disk) (l : Location) : Option Entry :=
  let depth := l.length
  (d.entries.find? fun e => e.1.length = depth ∧ e.1 = l).map (·.2)

theorem mem_of_entryAt? {d : Disk} {l : Location} {e : Entry} (h : d.entryAt? l = some e) :
    (l, e) ∈ d.entries := by
  simp only [entryAt?, Option.map_eq_some_iff] at h
  obtain ⟨⟨k, e⟩, hf, rfl⟩ := h
  obtain ⟨_, rfl⟩ : k.length = l.length ∧ k = l := by simpa using List.find?_some hf
  exact List.mem_of_find?_eq_some hf

theorem not_mem_of_entryAt?_eq_none {d : Disk} {l : Location} (h : d.entryAt? l = none) :
    l ∉ d.entries.map (·.1) := by
  simp only [entryAt?, Option.map_eq_none_iff, List.find?_eq_none, decide_eq_true_eq] at h
  intro hl
  obtain ⟨e, he, rfl⟩ := List.mem_map.1 hl
  exact h e he ⟨rfl, rfl⟩

theorem eq_of_mem {d : Disk} {l : Location} {e e' : Entry} (h : (l, e) ∈ d.entries)
    (h' : (l, e') ∈ d.entries) : e = e' := by
  have hd := d.distinct
  generalize d.entries = entries at h h' hd
  induction entries with
  | nil => simp at h
  | cons head tail ih =>
    obtain ⟨hn, ht⟩ := List.nodup_cons.1 hd
    have absent {x : Entry} (hx : (l, x) ∈ tail) : l ≠ head.1 := by
      rintro rfl
      exact hn (List.mem_map.2 ⟨_, hx, rfl⟩)
    rcases List.mem_cons.1 h with rfl | h <;> rcases List.mem_cons.1 h' with h' | h'
    · exact (Prod.mk.inj h').2.symm
    · exact absurd rfl (absent h')
    · exact absurd (congrArg Prod.fst h') (absent h)
    · exact ih h h' ht

/-- Looking up a location finds the one entry that it has. -/
theorem entryAt?_eq_some_iff {d : Disk} {l : Location} {e : Entry} :
    d.entryAt? l = some e ↔ (l, e) ∈ d.entries := by
  refine ⟨mem_of_entryAt?, fun h => ?_⟩
  cases hl : d.entryAt? l with
  | none => exact absurd (List.mem_map.2 ⟨_, h, rfl⟩) (not_mem_of_entryAt?_eq_none hl)
  | some e' => rw [eq_of_mem (mem_of_entryAt? hl) h]

/-- Makes a directory in an existing one, at a place that is free; otherwise nothing happens. -/
def addDirectory (d : Disk) (n : Name) (p : Location) : Disk :=
  if h : d.entryAt? p = some .directory ∧ d.entryAt? (n :: p) = none ∧ n.isStorable = true then
    { entries := (n :: p, .directory) :: d.entries
      distinct := List.nodup_cons.2 ⟨not_mem_of_entryAt?_eq_none h.2.1, d.distinct⟩
      root := List.mem_cons_of_mem _ d.root
      rooted := by
        intro m q e hm
        rcases List.mem_cons.1 hm with he | hm
        · obtain ⟨⟨rfl, rfl⟩, rfl⟩ := by simpa using he
          exact List.mem_cons_of_mem _ (mem_of_entryAt? h.1)
        · exact List.mem_cons_of_mem _ (d.rooted m q e hm)
      storable := by
        intro m q e hm
        rcases List.mem_cons.1 hm with he | hm
        · obtain ⟨⟨rfl, rfl⟩, rfl⟩ := by simpa using he
          exact h.2.2
        · exact d.storable m q e hm }
  else d

/-- Puts a file into an existing directory, in place of a file of that name; where a directory
has the name, nothing happens. -/
def putFile (d : Disk) (n : Name) (p : Location) (bytes : ByteArray) : Disk :=
  if h : d.entryAt? p = some .directory ∧ d.entryAt? (n :: p) ≠ some .directory ∧
      n.isStorable = true then
    { entries := (n :: p, .file bytes) :: d.entries.filter fun e => e.1 ≠ n :: p
      distinct := by
        refine List.nodup_cons.2 ⟨by simp, ?_⟩
        exact d.distinct.sublist (List.Sublist.map _ List.filter_sublist)
      root := List.mem_cons_of_mem _ (List.mem_filter.2 ⟨d.root, by simp⟩)
      rooted := by
        intro m q e hm
        refine List.mem_cons_of_mem _ (List.mem_filter.2 ?_)
        rcases List.mem_cons.1 hm with he | hm
        · obtain ⟨⟨rfl, rfl⟩, rfl⟩ := by simpa using he
          exact ⟨mem_of_entryAt? h.1, by simp⟩
        · have hq := d.rooted m q e (List.mem_filter.1 hm).1
          refine ⟨hq, ?_⟩
          simp only [ne_eq, decide_not, Bool.not_eq_true', decide_eq_false_iff_not]
          rintro rfl
          exact h.2.1 (entryAt?_eq_some_iff.2 hq)
      storable := by
        intro m q e hm
        rcases List.mem_cons.1 hm with he | hm
        · obtain ⟨⟨rfl, rfl⟩, rfl⟩ := by simpa using he
          exact h.2.2
        · exact d.storable m q e (List.mem_filter.1 hm).1 }
  else d

/-- Removes the file or the whole directory of the given name. -/
def remove (d : Disk) (n : Name) (p : Location) : Disk where
  entries := d.entries.filter fun e => !(n :: p).isSuffixOf e.1
  distinct := d.distinct.sublist (List.Sublist.map _ List.filter_sublist)
  root := List.mem_filter.2 ⟨d.root, by simp [List.isSuffixOf]⟩
  rooted := by
    intro m q e hm
    obtain ⟨hm, hs⟩ := List.mem_filter.1 hm
    refine List.mem_filter.2 ⟨d.rooted m q e hm, ?_⟩
    simp only [Bool.not_eq_true', Bool.eq_false_iff, ne_eq, List.isSuffixOf_iff_suffix] at hs ⊢
    exact fun h => hs (h.trans (List.suffix_cons m q))
  storable := fun m q e hm => d.storable m q e (List.mem_filter.1 hm).1

/-- Why a directory cannot be made: where it should be, or on the way there, is a file, or a name
that cannot be stored. -/
inductive Blockage where
  | fileAt (location : Location)
  | badNameAt (location : Location)
  deriving DecidableEq

/-- Makes every directory that is missing on the way to a location and there. What has been made
before something stops it stays. -/
def makeDirectories (d : Disk) : Location → Disk × Except Blockage Unit
  | [] => (d, .ok ())
  | n :: p =>
    match d.entryAt? (n :: p) with
    | some .directory => (d, .ok ())
    | some (.file _) => (d, .error (.fileAt (n :: p)))
    | none =>
      match d.makeDirectories p with
      | (d, .error b) => (d, .error b)
      | (d, .ok ()) =>
        if n.isStorable then (d.addDirectory n p, .ok ()) else (d, .error (.badNameAt (n :: p)))

/-- Why a path leads nowhere. -/
inductive Obstacle where
  | missing
  | notDirectory
  | badName
  deriving DecidableEq, Repr

/-- A step can be taken from a directory only, and what it leads to must exist. -/
def step (d : Disk) (l : Location) (s : PathStep) : Except Obstacle Location :=
  match d.entryAt? l with
  | none => .error .missing
  | some (.file _) => .error .notDirectory
  | some .directory =>
    if !s.isStorable then .error .badName
    else if (d.entryAt? (l.step s)).isSome then .ok (l.step s)
    else .error .missing

def walk (d : Disk) (l : Location) : List PathStep → Except Obstacle Location
  | [] => .ok l
  | s :: steps =>
    match d.step l s with
    | .error o => .error o
    | .ok l => d.walk l steps

/-- The files whose bytes are new or no longer the same. -/
def changes (before after : Disk) : List (Location × ByteArray) :=
  after.entries.filterMap fun (l, e) =>
    match e with
    | .file bytes => if before.entryAt? l = some (.file bytes) then none else some (l, bytes)
    | .directory => none

end Disk

end GuidAudit
