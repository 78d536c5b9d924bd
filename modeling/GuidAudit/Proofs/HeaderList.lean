import Mathlib.Data.List.Sort
import GuidAudit.Proofs.Search

namespace GuidAudit

variable {d : Disk} {start names : Location} {recursive : Bool} {root file : String}
variable {relative relative' : List String} {w : Workspace}

/-- However texts are enumerated, sorting puts them into one order. -/
theorem sortByUnits_eq_of_perm {texts texts' : List String} (h : texts.Perm texts') :
    sortByUnits texts = sortByUnits texts' := by
  apply List.Perm.eq_of_pairwise (fun _ _ _ _ => unitsLe_antisymm) (pairwise_sortByUnits texts)
    (pairwise_sortByUnits texts')
  exact (sortByUnits_perm texts).trans (h.trans (sortByUnits_perm texts').symm)

theorem mem_sortByUnits {texts : List String} {text : String} :
    text ∈ sortByUnits texts ↔ text ∈ texts :=
  (sortByUnits_perm texts).mem_iff

theorem units_lt_of_unitsLe {a b : String} (h : unitsLe a b = true) (hne : a ≠ b) :
    units a.toList < units b.toList := by
  rw [unitsLe, decide_eq_true_eq] at h
  exact Std.lt_of_le_of_ne h fun he => hne (units_injective he)

namespace Disk

theorem headerAt_false_iff : d.HeaderAt start false names ↔
    d.HeaderAt start true names ∧ ∃ n, names = [n] := by
  constructor
  · rintro ⟨hfile, n, between, rfl, hsuffix, hdirect⟩
    obtain rfl : between = [] := by simpa using hdirect
    exact ⟨⟨hfile, n, [], rfl, hsuffix, .inl rfl⟩, n, rfl⟩
  · rintro ⟨⟨hfile, n, between, hnames, hsuffix, _⟩, m, rfl⟩
    obtain ⟨rfl, rfl⟩ := List.cons.inj hnames
    exact ⟨hfile, m, [], rfl, hsuffix, .inr rfl⟩

/-- What a search is to list, in any order: the way to every header, once. -/
structure Enumerates (d : Disk) (start : Location) (recursive : Bool)
    (relative : List String) : Prop where
  nodup : relative.Nodup
  mem_iff : ∀ path, path ∈ relative ↔
    ∃ names, d.HeaderAt start recursive names ∧ path = joinWith "/" names

namespace Enumerates

theorem nodup_joined (h : d.Enumerates start recursive relative) (root : String) :
    (relative.map (joinedPath root)).Nodup := by
  apply List.Nodup.map_on _ h.nodup
  intro path hpath path' hpath' he
  obtain ⟨names, hnames, rfl⟩ := (h.mem_iff path).1 hpath
  obtain ⟨names', hnames', rfl⟩ := (h.mem_iff path').1 hpath'
  rw [joinedPath_injective hnames.ne_nil hnames'.ne_nil he]

theorem mem_headerList_iff (h : d.Enumerates start recursive relative) :
    file ∈ headerList root relative ↔
      ∃ names, d.HeaderAt start recursive names ∧ file = joinedPath root (joinWith "/" names) := by
  rw [headerList, mem_sortByUnits, List.mem_map]
  constructor
  · rintro ⟨path, hpath, rfl⟩
    obtain ⟨names, hnames, rfl⟩ := (h.mem_iff path).1 hpath
    exact ⟨names, hnames, rfl⟩
  · rintro ⟨names, hnames, rfl⟩
    exact ⟨_, (h.mem_iff _).2 ⟨names, hnames, rfl⟩, rfl⟩

theorem nodup_headerList (h : d.Enumerates start recursive relative) (root : String) :
    (headerList root relative).Nodup :=
  (sortByUnits_perm _).nodup_iff.2 (h.nodup_joined root)

theorem headerList_increasing (h : d.Enumerates start recursive relative) (root : String) :
    (headerList root relative).Pairwise fun a b => units a.toList < units b.toList := by
  apply ((pairwise_headerList root relative).and (h.nodup_headerList root)).imp
  intro a b hab
  exact units_lt_of_unitsLe hab.1 hab.2

theorem headerList_eq_nil (h : d.Enumerates start recursive relative) (root : String)
    (hstart : d.entryAt? start ≠ some .directory) : headerList root relative = [] := by
  apply List.eq_nil_iff_forall_not_mem.2
  intro file hfile
  obtain ⟨names, hnames, _⟩ := h.mem_headerList_iff.1 hfile
  exact hstart hnames.directory

/-- The order in which a search lists the headers does not show. -/
theorem headerList_eq (h : d.Enumerates start recursive relative)
    (h' : d.Enumerates start recursive relative') (root : String) :
    headerList root relative' = headerList root relative := by
  apply sortByUnits_eq_of_perm
  apply List.Perm.map
  apply (List.perm_ext_iff_of_nodup h'.nodup h.nodup).2
  intro path
  rw [h'.mem_iff, h.mem_iff]

section Direct

variable {all direct : List String} (hall : d.Enumerates start true all)
variable (hdirect : d.Enumerates start false direct)
include hall hdirect

/-- A header lies right in the root exactly if its path is that of a name in the root. -/
theorem mem_direct_iff : file ∈ headerList root direct ↔
    file ∈ headerList root all ∧ ∃ n : Name, file = joinedPath root n.text := by
  have hname (n : Name) : joinWith "/" [n] = n.text := by simp [joinWith]
  rw [hall.mem_headerList_iff, hdirect.mem_headerList_iff]
  constructor
  · rintro ⟨names, hnames, rfl⟩
    obtain ⟨hheader, n, rfl⟩ := headerAt_false_iff.1 hnames
    exact ⟨⟨[n], hheader, rfl⟩, n, by rw [hname]⟩
  · rintro ⟨⟨names, hheader, rfl⟩, n, hn⟩
    rw [← hname] at hn
    have hnames := joinedPath_injective hheader.ne_nil (List.cons_ne_nil n []) hn
    exact ⟨names, headerAt_false_iff.2 ⟨hheader, n, hnames⟩, rfl⟩

theorem direct_sublist (root : String) :
    (headerList root direct).Sublist (headerList root all) := by
  have hantisymm : Std.Antisymm fun a b : String => unitsLe a b = true :=
    ⟨fun _ _ => unitsLe_antisymm⟩
  have hsubset : headerList root direct ⊆ headerList root all :=
    fun _ hfile => ((mem_direct_iff hall hdirect).1 hfile).1
  exact List.sublist_of_subperm_of_pairwise
    (List.subperm_of_subset (hdirect.nodup_headerList root) hsubset)
    (pairwise_headerList root direct) (pairwise_headerList root all)

end Direct

end Enumerates

end Disk

theorem joinWith_injective {names' : Location} (hne : names ≠ []) (hne' : names' ≠ [])
    (h : joinWith "/" names = joinWith "/" names') : names = names' :=
  joinedPath_injective hne hne' (congrArg (joinedPath "") h)

/-- A workspace lists the headers below a directory if none of the paths is too long. -/
theorem Workspace.search_enumerates (hstart : w.searchStart root = .ok start)
    (hlisted : ∀ l, w.disk.entryAt? l = some .directory → Location.isListed l = true)
    (recursive : Bool) :
    let relative := (w.disk.headerNames start recursive).map (joinWith "/")
    w.search root recursive = .ok relative ∧ w.disk.Enumerates start recursive relative := by
  intro relative
  have hmem {names : Location} : names ∈ w.disk.headerNames start recursive ↔
      w.disk.HeaderAt start recursive names := by
    rw [Disk.mem_headerNames_iff, and_iff_left_iff_imp]
    intro h
    obtain ⟨bytes, hbytes⟩ := h.file
    obtain ⟨n, between, rfl, _⟩ := h.header
    apply hlisted
    exact Disk.entryAt?_eq_some_iff.2
      (w.disk.rooted n _ _ (Disk.entryAt?_eq_some_iff.1 hbytes))
  refine ⟨?_, ?_, fun path => ?_⟩
  · rw [search, hstart]
    rfl
  · apply List.Nodup.map_on _ (w.disk.headerNames_nodup start recursive)
    intro names hnames names' hnames'
    exact joinWith_injective (hmem.1 hnames).ne_nil (hmem.1 hnames').ne_nil
  · simp only [relative, List.mem_map, hmem, eq_comm (a := path)]

/-- Where the search of a root lists the headers below some place, each once and in any order, the
list of headers has their joined paths and no others, in the order of their units. It is empty if
the place is no directory, every other such search gives the same list, and the shallow list is the
part of the deep one that lies right in the root. -/
theorem headers_listed_exactly {σ : Type} [FileSystem σ] (w : σ) (root : String) (d : Disk)
    (start : Location) (listed : Bool → List String)
    (hsearch : ∀ recursive, FileSystem.search w root recursive = .ok (listed recursive))
    (hlisted : ∀ recursive, d.Enumerates start recursive (listed recursive)) :
    (∀ recursive, ∃ files, headers w root recursive = .ok files ∧
      files.Pairwise (fun a b => units a.toList < units b.toList) ∧
      (∀ file, file ∈ files ↔ ∃ names, d.HeaderAt start recursive names ∧
        file = joinedPath root (joinWith "/" names)) ∧
      (d.entryAt? start ≠ some .directory → files = []) ∧
      ∀ (τ : Type) [FileSystem τ] (w' : τ) (relative : List String),
        FileSystem.search w' root recursive = .ok relative →
        d.Enumerates start recursive relative → headers w' root recursive = .ok files) ∧
    ∃ all direct, headers w root true = .ok all ∧ headers w root false = .ok direct ∧
      direct.Sublist all ∧
      ∀ file, file ∈ direct ↔ file ∈ all ∧ ∃ n : Name, file = joinedPath root n.text := by
  have hheaders (recursive : Bool) := headers_eq_ok (hsearch recursive)
  refine ⟨fun recursive => ⟨_, hheaders recursive, ?_, ?_, ?_, ?_⟩,
    _, _, hheaders true, hheaders false, ?_, fun file => ?_⟩
  · exact (hlisted recursive).headerList_increasing root
  · exact fun file => (hlisted recursive).mem_headerList_iff
  · exact (hlisted recursive).headerList_eq_nil root
  · intro τ _ w' relative hsearch' hlisted'
    rw [headers_eq_ok hsearch', (hlisted recursive).headerList_eq hlisted']
  · exact (hlisted true).direct_sublist (hlisted false) root
  · exact (hlisted true).mem_direct_iff (hlisted false)

/-- One header lies right in the root, and another one further down. -/
theorem headers_listed_of_nested_header :
    let sub : Name := ⟨"sub", by decide⟩
    let w : Workspace :=
      { disk := ((Disk.empty.putFile ⟨"A.h", by decide⟩ [] .empty).makeDirectories [sub]).1.putFile
          ⟨"B.h", by decide⟩ [sub] .empty
        current := [] }
    let listed (recursive : Bool) := (w.disk.headerNames [] recursive).map (joinWith "/")
    (∀ recursive, FileSystem.search w "." recursive = .ok (listed recursive)) ∧
    (∀ recursive, w.disk.Enumerates [] recursive (listed recursive)) ∧
    ∃ all direct, headers w "." true = .ok all ∧ headers w "." false = .ok direct ∧
      direct.Sublist all ∧ "A.h" ∈ direct ∧ "sub/B.h" ∈ all ∧ "sub/B.h" ∉ direct := by
  intro sub w listed
  have hstart : w.searchStart "." = .ok [] :=
    Workspace.searchStart_of_entryAt? (Workspace.entryAt?_here rfl) (by decide)
  have hdirectories : ∀ l, w.disk.entryAt? l = some .directory → Location.isListed l = true := by
    intro l hl
    have hall : ∀ entry ∈ w.disk.entries, Location.isListed entry.1 = true := by decide
    exact hall (l, .directory) (Disk.entryAt?_eq_some_iff.1 hl)
  have hsearch (recursive : Bool) :=
    (Workspace.search_enumerates hstart hdirectories recursive).1
  have hlisted (recursive : Bool) :=
    (Workspace.search_enumerates hstart hdirectories recursive).2
  obtain ⟨hfiles, all, direct, hall, hdirect, hsublist, hchildren⟩ :=
    headers_listed_exactly w "." w.disk [] listed hsearch hlisted
  have hdown {recursive : Bool} {files : List String} (h : headers w "." recursive = .ok files) :
      ∀ file, file ∈ files ↔ ∃ names, w.disk.HeaderAt [] recursive names ∧
        file = joinedPath "." (joinWith "/" names) := by
    obtain ⟨_, hsame, _, hmem, _⟩ := hfiles recursive
    obtain rfl := Except.ok.inj (h.symm.trans hsame)
    exact hmem
  refine ⟨hsearch, hlisted, all, direct, hall, hdirect, hsublist, ?_, ?_, ?_⟩
  · refine (hdown hdirect _).2
      ⟨[⟨"A.h", by decide⟩], ⟨⟨.empty, by decide⟩, _, [], rfl, ?_, .inr rfl⟩, ?_⟩
    · decide
    · decide
  · refine (hdown hall _).2
      ⟨[⟨"B.h", by decide⟩, sub], ⟨⟨.empty, by decide⟩, _, [sub], rfl, ?_, .inl rfl⟩, ?_⟩
    · decide
    · decide
  · intro hmem
    obtain ⟨_, n, hn⟩ := (hchildren _).1 hmem
    have hslash : '/' ∈ "sub/B.h".toList := by decide
    rw [hn, joinedPath_here] at hslash
    exact n.slash_not_mem hslash

end GuidAudit
