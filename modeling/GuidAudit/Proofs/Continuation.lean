import Mathlib.Data.List.Nodup
import GuidAudit.Proofs.Lines
import GuidAudit.Proofs.Owner
import GuidAudit.Verdict

namespace GuidAudit

variable {ls ls' : List Line} {d : Detection} {i j i' j' k : Nat}

theorem annotationAt_append_left (h : i < ls.length) :
    annotationAt (ls ++ ls') i = annotationAt ls i := by
  rw [annotationAt, List.getElem?_append_left h]
  rfl

theorem annotationAt_append_right (ls ls' : List Line) (i : Nat) :
    annotationAt (ls ++ ls') (ls.length + i) = annotationAt ls' i := by
  rw [annotationAt, List.getElem?_append_right (Nat.le_add_right _ _), Nat.add_sub_cancel_left]
  rfl

theorem memberAt?_append_left (h : j < ls.length) : memberAt? (ls ++ ls') j = memberAt? ls j := by
  rw [memberAt?, List.getElem?_append_left h]
  rfl

theorem memberAt?_append_right (ls ls' : List Line) (j : Nat) :
    memberAt? (ls ++ ls') (ls.length + j) = memberAt? ls' j := by
  rw [memberAt?, List.getElem?_append_right (Nat.le_add_right _ _), Nat.add_sub_cancel_left]
  rfl

/-- An annotation near the end of some lines, with no member after it there, stands for the first
member of the lines that follow. -/
structure Straddles (ls ls' : List Line) (i j : Nat) : Prop where
  annotation : annotationAt ls i = true
  late : ls.length ≤ i + 4
  bare : ∀ k, i < k → memberAt? ls k = none
  declares : (memberAt? ls' j).isSome = true
  first : ∀ k < j, memberAt? ls' k = none
  near : ls.length + j ≤ i + 4

theorem lt_length_of_annotationAt (h : annotationAt ls i = true) : i < ls.length := by
  obtain ⟨line, hi, _⟩ := (Option.any_eq_true _ _).1 h
  exact (List.getElem?_eq_some_iff.1 hi).1

/-- Whether an annotation stands for a member is settled by the lines from the one to the other. -/
theorem marks_shift_iff {n : Nat} (ha : annotationAt ls' (n + i) = annotationAt ls i)
    (hm : ∀ k, i < k → k ≤ j → memberAt? ls' (n + k) = memberAt? ls k) :
    Marks ls' (n + i) (n + j) ↔ Marks ls i j := by
  constructor
  · intro h
    have hb : i < j := Nat.lt_of_add_lt_add_left h.below
    have hn := h.near
    refine ⟨ha.symm.trans h.annotation, hb, by omega, ?_, fun k hik hkj => ?_⟩
    · rw [← hm j hb (Nat.le_refl j)]
      exact h.declares
    · rw [← hm k hik (Nat.le_of_lt hkj)]
      exact h.first (n + k) (by omega) (by omega)
  · intro h
    have hb := h.below
    have hn := h.near
    refine ⟨ha.trans h.annotation, by omega, by omega, ?_, fun k hik hkj => ?_⟩
    · rw [hm j hb (Nat.le_refl j)]
      exact h.declares
    · obtain ⟨m, rfl⟩ : ∃ m, k = n + m := ⟨k - n, by omega⟩
      rw [hm m (by omega) (by omega)]
      exact h.first m (by omega) (by omega)

theorem marks_append_left (hij : i < j) (hj : j < ls.length) :
    Marks (ls ++ ls') i j ↔ Marks ls i j := by
  have h : Marks (ls ++ ls') (0 + i) (0 + j) ↔ Marks ls i j := by
    apply marks_shift_iff
    · rw [Nat.zero_add, annotationAt_append_left (by omega)]
    · intro k _ hkj
      rw [Nat.zero_add, memberAt?_append_left (by omega)]
  rwa [Nat.zero_add, Nat.zero_add] at h

theorem marks_append_right :
    Marks (ls ++ ls') (ls.length + i) (ls.length + j) ↔ Marks ls' i j :=
  marks_shift_iff (annotationAt_append_right ls ls' i)
    fun k _ _ => memberAt?_append_right ls ls' k

theorem marks_append_straddling (hi : i < ls.length) :
    Marks (ls ++ ls') i (ls.length + j) ↔ Straddles ls ls' i j := by
  constructor
  · intro h
    have hn := h.near
    refine ⟨?_, by omega, fun k hik => ?_, ?_, fun k hkj => ?_, hn⟩
    · rw [← annotationAt_append_left hi]
      exact h.annotation
    · by_cases hk : k < ls.length
      · rw [← memberAt?_append_left hk]
        exact h.first k hik (by omega)
      · rw [memberAt?, List.getElem?_eq_none (by omega)]
        rfl
    · rw [← memberAt?_append_right ls]
      exact h.declares
    · rw [← memberAt?_append_right ls]
      exact h.first (ls.length + k) (by omega) (by omega)
  · intro h
    refine ⟨?_, by omega, h.near, ?_, fun k hik hkj => ?_⟩
    · rw [annotationAt_append_left hi]
      exact h.annotation
    · rw [memberAt?_append_right]
      exact h.declares
    · by_cases hk : k < ls.length
      · rw [memberAt?_append_left hk]
        exact h.bare k hik
      · obtain ⟨m, rfl⟩ : ∃ m, k = ls.length + m := ⟨k - ls.length, by omega⟩
        rw [memberAt?_append_right]
        exact h.first m (by omega)

/-- The annotation that finds the earlier one of two members stands above the other annotation. -/
theorem Marks.lt_of_lt (h : Marks ls i j) (h' : Marks ls i' j') (hj : j < j') : i < i' := by
  apply Nat.lt_of_not_le
  intro hi
  have hd := h.declares
  rw [h'.first j (Nat.lt_of_le_of_lt hi h.below) hj] at hd
  cases hd

theorem Straddles.unique (h : Straddles ls ls' i j) (h' : Straddles ls ls' i' j') : j = j' := by
  have hle {i i' j j' : Nat} (h : Straddles ls ls' i j) (h' : Straddles ls ls' i' j') : j ≤ j' := by
    apply Nat.le_of_not_lt
    intro hlt
    have hd := h'.declares
    rw [h.first j' hlt] at hd
    cases hd
  exact Nat.le_antisymm (hle h h') (hle h' h)

/-- A detection in lines that have so many others before them. -/
def Detection.shift (n : Nat) (d : Detection) : Detection := { d with line := d.line + n }

theorem records_append_left (hi : i < ls.length) (hj : j < ls.length) :
    d.Records (ls ++ ls') i j ↔ d.Records ls i j := by
  rw [Detection.Records, List.getElem?_append_left hi, List.getElem?_append_left hj]
  rfl

theorem records_append_right :
    d.Records (ls ++ ls') (ls.length + i) (ls.length + j) ↔
      ∃ d' : Detection, d'.Records ls' i j ∧ d'.shift ls.length = d := by
  have hright (k : Nat) : (ls ++ ls')[ls.length + k]? = ls'[k]? := by
    rw [List.getElem?_append_right (Nat.le_add_right _ _), Nat.add_sub_cancel_left]
  have hline : ((ls.length + j : Nat) : Int) + 1 = (j + 1 : Int) + ls.length := by omega
  simp only [Detection.Records, hright]
  constructor
  · intro h
    obtain ⟨marked, line, member, hi, hj, hm, rfl⟩ := h
    refine ⟨_, ⟨marked, line, member, hi, hj, hm, rfl⟩, ?_⟩
    rw [Detection.shift, hline]
  · intro h
    obtain ⟨_, ⟨marked, line, member, hi, hj, hm, rfl⟩, rfl⟩ := h
    refine ⟨marked, line, member, hi, hj, hm, ?_⟩
    rw [Detection.shift, hline]

/-- The detections of the annotations in some lines whose members are in the lines that follow. -/
def straddlingTable (ls ls' : List Line) : List (Nat × Detection) :=
  (detectionTable (ls ++ ls')).filter fun e => e.1 < ls.length ∧ ls.length < e.2.line

theorem mem_straddlingTable_iff : (i, d) ∈ straddlingTable ls ls' ↔
    ∃ j, Straddles ls ls' i j ∧ d.Records (ls ++ ls') i (ls.length + j) := by
  rw [straddlingTable, List.mem_filter, mem_detectionTable_iff, decide_eq_true_eq]
  constructor
  · intro h
    obtain ⟨⟨j, hj, hr⟩, hi, hl⟩ := h
    rw [hr.line_eq] at hl
    obtain ⟨k, rfl⟩ : ∃ k, j = ls.length + k := ⟨j - ls.length, by omega⟩
    exact ⟨k, (marks_append_straddling hi).1 hj, hr⟩
  · intro h
    obtain ⟨j, hj, hr⟩ := h
    have hi := lt_length_of_annotationAt hj.annotation
    refine ⟨⟨_, (marks_append_straddling hi).2 hj, hr⟩, hi, ?_⟩
    rw [hr.line_eq]
    omega

theorem mem_detectionTable_append_iff : (i, d) ∈ detectionTable (ls ++ ls') ↔
    (i, d) ∈ detectionTable ls ∨ (i, d) ∈ straddlingTable ls ls' ∨
      (i, d) ∈ (detectionTable ls').map fun e => (ls.length + e.1, e.2.shift ls.length) := by
  rw [mem_detectionTable_iff, mem_detectionTable_iff, mem_straddlingTable_iff, List.mem_map]
  constructor
  · intro h
    obtain ⟨j, hj, hr⟩ := h
    have hb := hj.below
    by_cases hjl : j < ls.length
    · exact .inl ⟨j, (marks_append_left hb hjl).1 hj, (records_append_left (by omega) hjl).1 hr⟩
    · obtain ⟨k, rfl⟩ : ∃ k, j = ls.length + k := ⟨j - ls.length, by omega⟩
      by_cases hil : i < ls.length
      · exact .inr (.inl ⟨k, (marks_append_straddling hil).1 hj, hr⟩)
      · obtain ⟨m, rfl⟩ : ∃ m, i = ls.length + m := ⟨i - ls.length, by omega⟩
        obtain ⟨d', hr', rfl⟩ := records_append_right.1 hr
        have hd' := mem_detectionTable_iff.2 ⟨k, marks_append_right.1 hj, hr'⟩
        exact .inr (.inr ⟨(m, d'), hd', rfl⟩)
  · intro h
    rcases h with ⟨j, hj, hr⟩ | ⟨j, hj, hr⟩ | ⟨⟨m, d'⟩, hd', he⟩
    · have hb := hj.below
      have hl := hj.lt_length
      exact ⟨j, (marks_append_left hb hl).2 hj, (records_append_left (by omega) hl).2 hr⟩
    · have hi := lt_length_of_annotationAt hj.annotation
      exact ⟨_, (marks_append_straddling hi).2 hj, hr⟩
    · obtain ⟨rfl, rfl⟩ := Prod.mk.inj he
      obtain ⟨k, hk, hr⟩ := mem_detectionTable_iff.1 hd'
      exact ⟨_, marks_append_right.2 hk, records_append_right.2 ⟨d', hr, rfl⟩⟩

/-- Tables in the order of their indices are equal once they have the same entries. -/
theorem table_ext {table table' : List (Nat × Detection)}
    (h : table.Pairwise fun a b => a.1 < b.1) (h' : table'.Pairwise fun a b => a.1 < b.1)
    (hmem : ∀ e, e ∈ table ↔ e ∈ table') : table = table' := by
  have hnodup {t : List (Nat × Detection)} (ht : t.Pairwise fun a b => a.1 < b.1) : t.Nodup := by
    apply ht.imp
    rintro a b hlt rfl
    exact Nat.lt_irrefl _ hlt
  have hperm := (List.perm_ext_iff_of_nodup (hnodup h) (hnodup h')).2 hmem
  exact hperm.eq_of_pairwise (fun a b _ _ hab hba => absurd hab (Nat.lt_asymm hba)) h h'

theorem straddlingTable_pairwise (ls ls' : List Line) :
    (straddlingTable ls ls').Pairwise fun a b => a.1 < b.1 :=
  (detectionTable_pairwise _).filter _

/-- The annotations of the first lines come first, and among them those that find their members in
these lines already. -/
theorem detectionTable_append (ls ls' : List Line) : detectionTable (ls ++ ls') =
    detectionTable ls ++ straddlingTable ls ls' ++
      (detectionTable ls').map fun e => (ls.length + e.1, e.2.shift ls.length) := by
  apply table_ext (detectionTable_pairwise _)
  · apply List.pairwise_append.2
    refine ⟨List.pairwise_append.2
        ⟨detectionTable_pairwise ls, straddlingTable_pairwise ls ls', ?_⟩,
      List.pairwise_map.2 ((detectionTable_pairwise ls').imp fun h => Nat.add_lt_add_left h _), ?_⟩
    · -- An annotation whose member is in the first lines stands above all those without one there.
      intro (i, d) hd (i', d') hd'
      obtain ⟨j, hj, _⟩ := mem_detectionTable_iff.1 hd
      obtain ⟨j', hj', _⟩ := mem_straddlingTable_iff.1 hd'
      have hl := hj.lt_length
      have hi' := lt_length_of_annotationAt hj'.annotation
      apply ((marks_append_left hj.below hl).2 hj).lt_of_lt ((marks_append_straddling hi').2 hj')
      exact Nat.lt_add_right j' hl
    · intro (i, d) hd e he
      obtain ⟨e', _, rfl⟩ := List.mem_map.1 he
      have hi : i < ls.length := by
        rcases List.mem_append.1 hd with hd | hd
        · obtain ⟨j, hj, _⟩ := mem_detectionTable_iff.1 hd
          exact lt_length_of_annotationAt hj.annotation
        · obtain ⟨j, hj, _⟩ := mem_straddlingTable_iff.1 hd
          exact lt_length_of_annotationAt hj.annotation
      exact Nat.lt_add_right e'.1 hi
  · intro (i, d)
    rw [List.mem_append, List.mem_append, or_assoc]
    exact mem_detectionTable_append_iff

theorem detections_append (ls ls' : List Line) : detections (ls ++ ls') =
    detections ls ++ (straddlingTable ls ls').map (·.2) ++
      (detections ls').map (Detection.shift ls.length) := by
  simp only [← map_snd_detectionTable, detectionTable_append, List.map_append, List.map_map]
  rfl

theorem length_straddlingTable_le (ls ls' : List Line) : (straddlingTable ls ls').length ≤ 4 := by
  have hnodup : ((straddlingTable ls ls').map (·.1)).Nodup := by
    apply List.pairwise_map.2
    exact (straddlingTable_pairwise ls ls').imp Nat.ne_of_lt
  have hsub : (straddlingTable ls ls').map (·.1) ⊆ List.range' (ls.length - 4) 4 := by
    intro i hi
    obtain ⟨⟨i, d⟩, hd, rfl⟩ := List.mem_map.1 hi
    obtain ⟨j, hj, _⟩ := mem_straddlingTable_iff.1 hd
    have hl := lt_length_of_annotationAt hj.annotation
    have hlate := hj.late
    rw [List.mem_range'_1]
    omega
  have h := hnodup.length_le_of_subset hsub
  simpa using h

/-- What straddles is found under several annotations, but is one member. -/
theorem straddling_eq_of_mem {e e' : Nat × Detection} (he : e ∈ straddlingTable ls ls')
    (he' : e' ∈ straddlingTable ls ls') :
    e'.2 = { e.2 with annotationText := e'.2.annotationText } := by
  obtain ⟨j, hj, _, line, member, _, hl, hm, hd⟩ := mem_straddlingTable_iff.1 he
  obtain ⟨j', hj', _, line', member', _, hl', hm', hd'⟩ := mem_straddlingTable_iff.1 he'
  obtain rfl := hj.unique hj'
  obtain rfl : line = line' := Option.some.inj (hl.symm.trans hl')
  obtain rfl : member = member' := Option.some.inj (hm.symm.trans hm')
  rw [hd, hd']

theorem ownerAt_append {k : Int} (h : k ≤ ls.length) : ownerAt (ls ++ ls') k = ownerAt ls k := by
  rw [ownerAt, List.take_append_of_le_length (by omega)]
  rfl

/-- Nothing behind a member changes who owns it. -/
theorem properties_prefix (file : String) (ls ls' : List Line) :
    properties file ls <+: properties file (ls ++ ls') := by
  have hmap : properties file ls =
      (detections ls).map fun d => { d with file, owner := ownerAt (ls ++ ls') (d.line - 1) } := by
    apply List.map_congr_left
    intro d hd
    have hl := (detections_line_bounds hd).2
    rw [ownerAt_append (by omega)]
  rw [hmap, properties, detections_append, List.append_assoc, List.map_append]
  exact List.prefix_append _ _

/-- A text that goes on behind a line feed has the detections of its two parts, and between these
one for each annotation at the end of the first part that has no member there, but one near enough
in the second. The audit of the longer text begins with the audit of the first part. -/
theorem detections_of_continued_text (c d : String) (h : c.toList.getLast? ≠ some '\r') :
    lines (c ++ "\n" ++ d).toList = lines c.toList ++ lines d.toList ∧
    let ls := lines c.toList
    let ls' := lines d.toList
    (∃ straddling : List (Nat × Detection),
      detections (lines (c ++ "\n" ++ d).toList) =
        detections ls ++ straddling.map (·.2) ++ (detections ls').map (Detection.shift ls.length) ∧
      straddling.Pairwise (fun a b => a.1 < b.1) ∧
      (∀ i r, (i, r) ∈ straddling ↔
        ∃ j, Straddles ls ls' i j ∧ r.Records (ls ++ ls') i (ls.length + j)) ∧
      (∀ i, (∃ r, (i, r) ∈ straddling) ↔ ∃ j, Straddles ls ls' i j) ∧
      straddling.length ≤ 4 ∧
      (∀ e ∈ straddling, ∀ e' ∈ straddling,
        e'.2 = { e.2 with annotationText := e'.2.annotationText }) ∧
      ((∀ i, ls.length ≤ i + 4 → annotationAt ls i = false) → straddling = [])) ∧
    ∀ file keys,
      let before := auditContent file c keys
      let after := auditContent file (c ++ "\n" ++ d) keys
      before.found <+: after.found ∧ before.valid <+: after.valid ∧
        before.invalid <+: after.invalid ∧ before.suppressed <+: after.suppressed := by
  have hlines : lines (c ++ "\n" ++ d).toList = lines c.toList ++ lines d.toList := by
    rw [String.toList_append, String.toList_append, List.append_assoc]
    exact lines_append h
  refine ⟨hlines, ?_⟩
  intro ls ls'
  refine ⟨⟨straddlingTable ls ls', ?_, straddlingTable_pairwise ls ls',
    fun _ _ => mem_straddlingTable_iff, fun i => ?_, length_straddlingTable_le ls ls',
    fun _ he _ he' => straddling_eq_of_mem he he', fun hnone => ?_⟩, fun file keys => ?_⟩
  · rw [hlines]
    exact detections_append ls ls'
  · simp only [mem_straddlingTable_iff]
    constructor
    · intro h
      obtain ⟨_, j, hj, _⟩ := h
      exact ⟨j, hj⟩
    · intro h
      obtain ⟨j, hj⟩ := h
      have hi := lt_length_of_annotationAt hj.annotation
      obtain ⟨r, hr⟩ := ((marks_append_straddling hi).2 hj).exists_records
      exact ⟨r, j, hj, hr⟩
  · apply List.eq_nil_iff_forall_not_mem.2
    intro (i, r) hr
    obtain ⟨j, hj, _⟩ := mem_straddlingTable_iff.1 hr
    have ha := hj.annotation
    rw [hnone i hj.late] at ha
    cases ha
  · have hfound : properties file ls <+: properties file (lines (c ++ "\n" ++ d).toList) := by
      rw [hlines]
      exact properties_prefix file ls ls'
    exact ⟨hfound, hfound.filter _, hfound.filterMap _, hfound.filterMap _⟩

/-- Two annotations at the end of one text find the member at the beginning of the next. -/
theorem detections_of_continued_annotations :
    let c := "UPROPERTY()\nUPROPERTY(Transient)"
    let d := "\nFGuid Id;"
    c.toList.getLast? ≠ some '\r' ∧ detections (lines c.toList) = [] ∧
    detections (lines d.toList) = [] ∧
    ∃ straddling : List (Nat × Detection),
      detections (lines (c ++ "\n" ++ d).toList) = straddling.map (·.2) ∧ straddling.length = 2 ∧
      ∀ e ∈ straddling, ∀ e' ∈ straddling,
        e'.2 = { e.2 with annotationText := e'.2.annotationText } := by
  intro c d
  have h : c.toList.getLast? ≠ some '\r' := by decide
  have hfirst : detections (lines c.toList) = [] := by decide
  have hsecond : detections (lines d.toList) = [] := by decide
  obtain ⟨_, ⟨straddling, hall, _, _, _, _, hone, _⟩, _⟩ := detections_of_continued_text c d h
  rw [hfirst, hsecond, List.map_nil, List.append_nil, List.nil_append] at hall
  have hlength : (detections (lines (c ++ "\n" ++ d).toList)).length = 2 := by decide
  rw [hall, List.length_map] at hlength
  exact ⟨h, hfirst, hsecond, straddling, hall, hlength, hone⟩

end GuidAudit
