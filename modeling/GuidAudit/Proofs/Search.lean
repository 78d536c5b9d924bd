import Mathlib.Data.List.Nodup
import GuidAudit.Audit
import GuidAudit.Disk.Workspace
import GuidAudit.Proofs.JoinedPath

namespace GuidAudit

variable {d : Disk} {l l' names : Location} {w : Workspace} {path : String} {e : Entry} {n : Name}
variable {recursive : Bool} {start : Location} {relative files : List String}

theorem Disk.step_eq_ok {s : PathStep} (h : d.step l s = .ok l') : l' = l.step s := by
  unfold step at h
  repeat' split at h
  all_goals cases h
  rfl

/-- Links are unknown to a disk, so a path leads to the location that its names tell. -/
theorem Disk.walk_eq_ok {steps : List PathStep} (h : d.walk l steps = .ok l') :
    l' = steps.foldl Location.step l := by
  induction steps generalizing l with
  | nil =>
    cases h
    rfl
  | cons s steps ih =>
    unfold walk at h
    split at h
    · cases h
    · rename_i next hs
      rw [List.foldl_cons, ← Disk.step_eq_ok hs]
      exact ih h

theorem Disk.isStorable_of_mem (h : (l, e) ∈ d.entries) (hn : n ∈ l) :
    n.isStorable = true := by
  induction l generalizing e with
  | nil => cases hn
  | cons m p ih =>
    rcases List.mem_cons.1 hn with rfl | hn
    · exact d.storable n p e h
    · exact ih (d.rooted m p e h) hn

theorem Workspace.checkedPath_eq_ok {call : DiskCall} {p : Path}
    (h : checkedPath path call = .ok p) : p = .ofText path := by
  unfold checkedPath at h
  repeat' split at h
  all_goals cases h
  rfl

theorem Workspace.reach_eq_ok {p : Path} (h : w.reach p = .ok e) :
    w.disk.entryAt? (w.locate p) = some e := by
  unfold reach at h
  split at h
  · cases h
  split at h
  · cases h
  rename_i place hwalk
  rw [locate, ← Disk.walk_eq_ok hwalk]
  split at h
  · cases h
  · rename_i he
    cases h
    exact he
  · rename_i bytes he
    split at h
    · cases h
    · cases h
      exact he

theorem Workspace.entryAt?_locate (h : w.entryAt? path = some e) :
    w.disk.entryAt? (w.locate (.ofText path)) = some e := by
  unfold entryAt? at h
  split at h
  · cases h
  · rename_i p hp
    rw [checkedPath_eq_ok hp] at h
    cases hr : w.reach (.ofText path) with
    | error o =>
      rw [hr] at h
      cases h
    | ok found =>
      rw [hr] at h
      cases h
      exact reach_eq_ok hr

theorem Workspace.read_eq_ok_iff {bytes : ByteArray} :
    w.read path = .ok bytes ↔ w.entryAt? path = some (.file bytes) := by
  rw [read, entryAt?]
  cases checkedPath path (.openFile path) with
  | error error => simp
  | ok p =>
    cases hr : w.reach p with
    | error obstacle => simp [hr, Except.toOption]
    | ok entry => cases entry <;> simp [hr, Except.toOption]

theorem mem_intercalate {separator : String} {texts : List String} {c : Char}
    (h : c ∈ (separator.intercalate texts).toList) :
    c ∈ separator.toList ∨ ∃ text ∈ texts, c ∈ text.toList := by
  induction texts with
  | nil => simp at h
  | cons text texts ih =>
    cases texts with
    | nil => exact .inr ⟨text, List.mem_cons_self, by simpa using h⟩
    | cons next texts =>
      rw [String.intercalate_cons_cons] at h
      simp only [String.toList_append, List.mem_append] at h
      rcases h with (h | h) | h
      · exact .inr ⟨text, List.mem_cons_self, h⟩
      · exact .inl h
      · rcases ih h with h | ⟨t, ht, hc⟩
        · exact .inl h
        · exact .inr ⟨t, List.mem_cons_of_mem _ ht, hc⟩

theorem Location.not_holdsNull_text (h : ∀ n ∈ l, Name.isStorable n = true) :
    holdsNull (Location.text l) = false := by
  have hnul : nul ∉ (Location.text l).toList := by
    intro hm
    simp only [Location.text, joinWith, String.toList_append, List.mem_append] at hm
    rcases hm with hm | hm
    · exact absurd hm (by decide)
    · rcases mem_intercalate hm with hm | ⟨t, ht, hm⟩
      · exact absurd hm (by decide)
      · obtain ⟨n, hn, rfl⟩ := List.mem_map.1 ht
        have hs := h n (List.mem_reverse.1 hn)
        simp only [Name.isStorable, holdsNull, Bool.and_eq_true, Bool.not_eq_true',
          List.contains_eq_mem, decide_eq_false_iff_not] at hs
        exact hs.2 hm
  simpa only [holdsNull, List.contains_eq_mem, decide_eq_false_iff_not] using hnul

/-- What is on the disk can be searched, unless its path is taken for a URL. -/
theorem Workspace.searchStart_of_entryAt? (h : w.entryAt? path = some e)
    (hurl : FileUrl.body? path = none) :
    w.searchStart path = .ok (w.locate (.ofText path)) := by
  have hmem := Disk.mem_of_entryAt? (Workspace.entryAt?_locate h)
  have hnull := Location.not_holdsNull_text fun _ hn => Disk.isStorable_of_mem hmem hn
  simp only [searchStart, searchPath, hurl, hnull, Bool.false_eq_true, ↓reduceIte]

theorem FileUrl.opening_prefix_of_body? (h : FileUrl.body? path ≠ none) :
    FileUrl.opening.toList <+: path.toList := by
  obtain ⟨body, hb⟩ := Option.ne_none_iff_exists'.1 h
  obtain ⟨rest, hr, _⟩ := Option.map_eq_some_iff.1 hb
  exact ⟨rest, (after?_eq_some_iff.1 hr).symm⟩

theorem headers_eq_ok {σ : Type} [FileSystem σ] {w : σ} {root : String}
    (h : FileSystem.search w root recursive = .ok relative) :
    headers w root recursive = .ok (headerList root relative) := by
  rw [headers, h]
  rfl

theorem exists_search_of_headers {σ : Type} [FileSystem σ] {w : σ} {root : String}
    (h : headers w root recursive = .ok files) :
    ∃ relative, FileSystem.search w root recursive = .ok relative ∧
      files = headerList root relative := by
  rw [headers] at h
  cases hs : FileSystem.search w root recursive with
  | error problem =>
    rw [hs] at h
    cases h
  | ok relative =>
    rw [hs] at h
    cases h
    exact ⟨relative, rfl, rfl⟩

theorem Workspace.opening_prefix_of_headers_error {problem : SearchProblem}
    (h : w.entryAt? path = some e) (herror : headers w path recursive = .error problem) :
    FileUrl.opening.toList <+: path.toList := by
  apply FileUrl.opening_prefix_of_body?
  intro hurl
  rw [headers, search_eq, search, searchStart_of_entryAt? h hurl] at herror
  cases herror

theorem Location.below?_append (root names : Location) :
    Location.below? root (names ++ root) = some names := by
  have hsuffix : root.isSuffixOf (names ++ root) = true :=
    List.isSuffixOf_iff_suffix.2 (List.suffix_append names root)
  simp [below?, hsuffix]

theorem Location.below?_eq_some {root : Location} (h : root.below? l = some names) :
    l = names ++ root := by
  unfold below? at h
  split at h
  · rename_i hs
    obtain ⟨t, rfl⟩ := List.isSuffixOf_iff_suffix.1 hs
    cases h
    simp
  · cases h

/-- The names lead down to a header that a search is to find. -/
structure Disk.HeaderAt (d : Disk) (start : Location) (recursive : Bool)
    (names : Location) : Prop where
  file : ∃ bytes, d.entryAt? (names ++ start) = some (.file bytes)
  header : ∃ n between, names = n :: between ∧ ".h".toList <:+ n.text.toList ∧
    (recursive = true ∨ between = [])

theorem Disk.HeaderAt.ne_nil (h : d.HeaderAt start recursive names) : names ≠ [] := by
  obtain ⟨n, between, rfl, _⟩ := h.header
  exact List.cons_ne_nil n between

/-- Headers lie in a directory only. -/
theorem Disk.HeaderAt.directory (h : d.HeaderAt start recursive names) :
    d.entryAt? start = some .directory := by
  obtain ⟨bytes, hbytes⟩ := h.file
  have hne := h.ne_nil
  have hmem := Disk.entryAt?_eq_some_iff.1 hbytes
  apply Disk.entryAt?_eq_some_iff.2
  generalize Entry.file bytes = e at hmem
  clear h hbytes
  induction names generalizing e with
  | nil => exact absurd rfl hne
  | cons n names ih =>
    have hparent := d.rooted n (names ++ start) e hmem
    cases names with
    | nil => exact hparent
    | cons m names => exact ih (List.cons_ne_nil m names) _ hparent

theorem headerBelow?_eq_some_iff :
    headerBelow? start recursive (l, e) = some names ↔
      (l = names ++ start ∧ Location.isListed l.tail = true) ∧ (∃ bytes, e = .file bytes) ∧
      ∃ n between, names = n :: between ∧ ".h".toList <:+ n.text.toList ∧
        (recursive = true ∨ between = []) := by
  constructor
  · intro h
    cases e with
    | directory => cases h
    | file bytes =>
      rw [headerBelow?] at h
      split at h
      · rename_i n between hbelow
        obtain ⟨hfound, hnames⟩ := Option.ite_none_right_eq_some.1 h
        simp only [Bool.and_eq_true, Bool.or_eq_true, List.isEmpty_iff] at hfound
        cases hnames
        exact ⟨⟨Location.below?_eq_some hbelow, hfound.2⟩, ⟨bytes, rfl⟩, n, between, rfl,
          List.isSuffixOf_iff_suffix.1 hfound.1.1, hfound.1.2⟩
      · cases h
  · rintro ⟨⟨rfl, hlisted⟩, ⟨bytes, rfl⟩, n, between, rfl, hsuffix, hdepth⟩
    have hname : isHeaderName n = true := List.isSuffixOf_iff_suffix.2 hsuffix
    rw [headerBelow?, Location.below?_append]
    apply if_pos
    simp only [Bool.and_eq_true, Bool.or_eq_true, List.isEmpty_iff]
    exact ⟨⟨hname, hdepth⟩, hlisted⟩

/-- The ways down to the headers that a search finds, as the disk lists them. -/
def Disk.headerNames (d : Disk) (start : Location) (recursive : Bool) : List Location :=
  d.entries.filterMap (headerBelow? start recursive)

theorem Disk.headerNames_nodup (d : Disk) (start : Location) (recursive : Bool) :
    (d.headerNames start recursive).Nodup := by
  apply List.Pairwise.filterMap _ _ (List.pairwise_map.1 d.distinct)
  intro (l, e) (l', e') hl names hnames names' hnames' heq
  apply hl
  rw [(headerBelow?_eq_some_iff.1 hnames).1.1, (headerBelow?_eq_some_iff.1 hnames').1.1, heq]

theorem Disk.mem_headerNames_iff : names ∈ d.headerNames start recursive ↔
    d.HeaderAt start recursive names ∧ Location.isListed (names ++ start).tail = true := by
  rw [headerNames, List.mem_filterMap]
  constructor
  · rintro ⟨⟨l, e⟩, he, h⟩
    obtain ⟨⟨rfl, hlisted⟩, ⟨bytes, rfl⟩, hheader⟩ := headerBelow?_eq_some_iff.1 h
    exact ⟨⟨⟨bytes, Disk.entryAt?_eq_some_iff.2 he⟩, hheader⟩, hlisted⟩
  · rintro ⟨⟨⟨bytes, hbytes⟩, hheader⟩, hlisted⟩
    exact ⟨_, Disk.entryAt?_eq_some_iff.1 hbytes,
      headerBelow?_eq_some_iff.2 ⟨⟨rfl, hlisted⟩, ⟨bytes, rfl⟩, hheader⟩⟩

theorem Workspace.search_eq_ok (h : w.search path recursive = .ok relative) :
    ∃ start, relative = (w.disk.headerNames start recursive).map (joinWith "/") := by
  unfold search at h
  split at h
  · cases h
  · rename_i start _
    cases h
    exact ⟨start, rfl⟩

theorem pairwise_headerList (root : String) (relative : List String) :
    (headerList root relative).Pairwise fun file file' => unitsLe file file' = true :=
  pairwise_sortByUnits _

theorem Workspace.headers_nodup (h : headers w path recursive = .ok files) : files.Nodup := by
  obtain ⟨relative, hsearch, rfl⟩ := exists_search_of_headers h
  obtain ⟨start, rfl⟩ := search_eq_ok hsearch
  apply (sortByUnits_perm _).nodup_iff.2
  rw [List.map_map]
  apply List.Nodup.map_on _ (w.disk.headerNames_nodup start recursive)
  intro names hnames names' hnames'
  exact joinedPath_injective (Disk.mem_headerNames_iff.1 hnames).1.ne_nil
    (Disk.mem_headerNames_iff.1 hnames').1.ne_nil

theorem headers_pairwise {σ : Type} [FileSystem σ] {w : σ}
    (h : headers w path recursive = .ok files) :
    files.Pairwise fun file file' => unitsLe file file' = true := by
  obtain ⟨relative, _, rfl⟩ := exists_search_of_headers h
  exact pairwise_headerList path relative

theorem Workspace.suffix_of_mem_headers {file : String} (h : headers w path recursive = .ok files)
    (hfile : file ∈ files) : headerSuffix.toList <:+ file.toList := by
  obtain ⟨relative, hsearch, rfl⟩ := exists_search_of_headers h
  obtain ⟨start, rfl⟩ := search_eq_ok hsearch
  obtain ⟨_, hpath, rfl⟩ := List.mem_map.1 ((sortByUnits_perm _).mem_iff.1 hfile)
  obtain ⟨names, hnames, rfl⟩ := List.mem_map.1 hpath
  obtain ⟨n, between, rfl, hn, _⟩ := (Disk.mem_headerNames_iff.1 hnames).1.header
  exact List.IsSuffix.trans hn (suffix_joinedPath path n between)

theorem Workspace.entryAt?_here (h : w.current = []) : w.entryAt? "." = some .directory := by
  have hroot : w.disk.entryAt? [] = some .directory := Disk.entryAt?_eq_some_iff.2 w.disk.root
  have hpath : checkedPath "." (.openFile ".") = .ok ⟨false, [.current], false⟩ := rfl
  have hstart : w.start ⟨false, [.current], false⟩ = [] := h
  have hwalk : w.disk.walk [] [.current] = .ok [] := by
    simp [Disk.walk, Disk.step, hroot, PathStep.isStorable, Location.step]
  rw [entryAt?, hpath]
  simp only [reach, Path.isEmpty, hstart, hwalk, hroot]
  rfl

/-- A current directory that holds one file and nothing else. -/
def Workspace.soleFile (n : Name) (text : String) : Workspace where
  disk := Disk.empty.putFile n [] text.toUTF8
  current := []

theorem Workspace.soleFile_entries (hs : n.isStorable = true) (text : String) :
    (soleFile n text).disk.entries = [([n], .file text.toUTF8), ([], .directory)] := by
  have h : Disk.empty.entryAt? [] = some .directory ∧ Disk.empty.entryAt? [n] ≠ some .directory ∧
      n.isStorable = true := ⟨rfl, nofun, hs⟩
  rw [soleFile, Disk.putFile, dif_pos h]
  rfl

theorem Workspace.soleFile_search (hs : n.isStorable = true) (hn : isHeaderName n = true)
    (text : String) (recursive : Bool) :
    (soleFile n text).search "." recursive = .ok [n.text] := by
  have hstart : (soleFile n text).searchStart "." = .ok [] :=
    searchStart_of_entryAt? (entryAt?_here rfl) (by decide)
  have hfile : headerBelow? [] recursive ([n], .file text.toUTF8) = some [n] := by
    refine headerBelow?_eq_some_iff.2 ⟨⟨rfl, rfl⟩, ⟨_, rfl⟩, n, [], rfl, ?_, .inr rfl⟩
    exact List.isSuffixOf_iff_suffix.1 hn
  have hroot : headerBelow? [] recursive ([], .directory) = none := rfl
  have htext : joinWith "/" [n] = n.text := by simp [joinWith]
  simp only [search, hstart, soleFile_entries hs, List.filterMap_cons, hfile, hroot,
    List.filterMap_nil, List.map_cons, List.map_nil, htext]

theorem joinedPath_here (n : Name) : joinedPath "." n.text = n.text := by
  have hnames : joinWith "/" [n] = n.text := by simp [joinWith]
  have hroot : resolvedPieces ".".toList = [] := by decide
  have h := toList_joinedPath (List.cons_ne_nil n []) "."
  rw [hnames, hroot] at h
  exact String.toList_inj.1 (by simpa using h)

theorem Workspace.soleFile_headers (hs : n.isStorable = true) (hn : isHeaderName n = true)
    (text : String) : headers (soleFile n text) "." true = .ok [n.text] := by
  rw [headers_eq_ok (soleFile_search hs hn text true), headerList, List.map_singleton,
    joinedPath_here, sortByUnits, List.mergeSort_singleton]

/-- A current directory that holds one header and nothing else. -/
def Workspace.oneHeader (text : String) : Workspace where
  disk := Disk.empty.putFile ⟨"A.h", by decide⟩ [] text.toUTF8
  current := []

theorem Workspace.oneHeader_headers (text : String) :
    headers (oneHeader text) "." true = .ok ["A.h"] :=
  soleFile_headers (n := ⟨"A.h", by decide⟩) (by decide) (by decide) text

theorem Workspace.oneHeader_read (text : String) :
    (oneHeader text).read "A.h" = .ok text.toUTF8 := rfl

end GuidAudit
