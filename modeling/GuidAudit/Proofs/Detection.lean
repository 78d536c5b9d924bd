import GuidAudit.Header

namespace GuidAudit

variable {ls : List Line} {marked line : Line} {member : Member} {d : Detection}
variable {i j i' j' n number : Nat}

def annotationAt (ls : List Line) (i : Nat) : Bool := ls[i]?.any isAnnotationLine

def memberAt? (ls : List Line) (j : Nat) : Option Member := ls[j]?.bind Member.ofLine?

/-- An annotation stands for the first member that is declared within four lines below it. -/
structure Marks (ls : List Line) (i j : Nat) : Prop where
  annotation : annotationAt ls i = true
  below : i < j
  near : j ≤ i + 4
  declares : (memberAt? ls j).isSome = true
  first : ∀ k, i < k → k < j → memberAt? ls k = none

/-- What is noted down about a member and the annotation that stands for it. -/
def Detection.Records (d : Detection) (ls : List Line) (i j : Nat) : Prop :=
  ∃ marked line member, ls[i]? = some marked ∧ ls[j]? = some line ∧
    Member.ofLine? line = some member ∧
    d = { line := j + 1
          name := String.ofList member.name
          annotationText := trimmed marked
          declarationText := trimmed line
          initializer := member.initializer.map trimmed }

@[simp] theorem memberAt?_cons_zero (line : Line) (ls : List Line) :
    memberAt? (line :: ls) 0 = Member.ofLine? line := rfl

@[simp] theorem memberAt?_cons_succ (line : Line) (ls : List Line) (j : Nat) :
    memberAt? (line :: ls) (j + 1) = memberAt? ls j := by
  simp only [memberAt?, List.getElem?_cons_succ]

theorem memberAt?_isSome_iff : (memberAt? ls j).isSome = true ↔
    ∃ line member, ls[j]? = some line ∧ Member.ofLine? line = some member := by
  simp only [memberAt?, Option.isSome_iff_exists, Option.bind_eq_some_iff]
  exact exists_comm

theorem lt_length_of_memberAt? (h : (memberAt? ls j).isSome = true) : j < ls.length := by
  obtain ⟨line, member, hl, _⟩ := memberAt?_isSome_iff.1 h
  exact (List.getElem?_eq_some_iff.1 hl).1

theorem firstMember?_eq_some_iff : firstMember? number ls = some (n, line, member) ↔
    ∃ k, n = number + k ∧ ls[k]? = some line ∧ Member.ofLine? line = some member ∧
      ∀ m < k, memberAt? ls m = none := by
  induction ls generalizing number with
  | nil => simp [firstMember?]
  | cons head rest ih =>
    cases hm : Member.ofLine? head with
    | some found =>
      simp only [firstMember?, hm, Option.some.injEq, Prod.mk.injEq]
      constructor
      · intro h
        obtain ⟨rfl, rfl, rfl⟩ := h
        exact ⟨0, rfl, rfl, hm, by simp⟩
      · intro h
        obtain ⟨k, rfl, hl, hk, hfirst⟩ := h
        cases k with
        | zero =>
          cases hl
          exact ⟨rfl, rfl, Option.some.inj (hm.symm.trans hk)⟩
        | succ k =>
          have h := hfirst 0 (Nat.succ_pos k)
          simp [hm] at h
    | none =>
      simp only [firstMember?, hm, ih]
      constructor
      · intro h
        obtain ⟨k, rfl, hl, hk, hfirst⟩ := h
        have hcons : ∀ m < k + 1, memberAt? (head :: rest) m = none := by
          intro m h
          cases m with
          | zero => exact hm
          | succ m => simpa using hfirst m (by omega)
        exact ⟨k + 1, by omega, hl, hk, hcons⟩
      · intro h
        obtain ⟨k, rfl, hl, hk, hfirst⟩ := h
        cases k with
        | zero =>
          cases hl
          rw [hm] at hk
          cases hk
        | succ k =>
          have htail : ∀ m < k, memberAt? rest m = none := by
            intro m h
            simpa using hfirst (m + 1) (by omega)
          exact ⟨k, by omega, hl, hk, htail⟩

/-- The detection of the annotation at an index, where the first line has the given number. -/
def detectionAt? (number : Nat) (ls : List Line) (i : Nat) : Option Detection :=
  match ls.drop i with
  | [] => none
  | line :: rest => if isAnnotationLine line then detect? (number + i) line rest else none

theorem detectionAt?_cons_succ (number : Nat) (line : Line) (rest : List Line) (i : Nat) :
    detectionAt? number (line :: rest) (i + 1) = detectionAt? (number + 1) rest i := by
  have he : number + (i + 1) = number + 1 + i := by omega
  simp only [detectionAt?, List.drop_succ_cons, he]

theorem detectionsFrom_eq_filterMap (number : Nat) (ls : List Line) :
    detectionsFrom number ls = (List.range ls.length).filterMap (detectionAt? number ls) := by
  induction ls generalizing number with
  | nil => rfl
  | cons line rest ih =>
    have htail : (detectionAt? number (line :: rest)) ∘ Nat.succ =
        detectionAt? (number + 1) rest := by
      funext i
      exact detectionAt?_cons_succ number line rest i
    rw [List.length_cons, List.range_succ_eq_map, List.filterMap_cons, List.filterMap_map, htail,
      ← ih]
    by_cases ha : isAnnotationLine line = true
    · cases hd : detect? number line rest <;> simp [detectionsFrom, detectionAt?, ha, hd]
    · simp [detectionsFrom, detectionAt?, ha]

theorem detections_eq_filterMap (ls : List Line) :
    detections ls = (List.range ls.length).filterMap (detectionAt? 1 ls) :=
  detectionsFrom_eq_filterMap 1 ls

theorem detect?_eq_some_iff {below : List Line} : detect? number marked below = some d ↔
    ∃ k line member, k < lookahead ∧ below[k]? = some line ∧ Member.ofLine? line = some member ∧
      (∀ m < k, memberAt? below m = none) ∧
      d = { line := ((number + 1 + k : Nat) : Int)
            name := String.ofList member.name
            annotationText := trimmed marked
            declarationText := trimmed line
            initializer := member.initializer.map trimmed } := by
  have htake {k : Nat} (hk : k < lookahead) (m : Nat) (hm : m ≤ k) :
      (below.take lookahead)[m]? = below[m]? := List.getElem?_take_of_lt (by omega)
  have hfirst {k : Nat} (hk : k < lookahead) :
      (∀ m < k, memberAt? (below.take lookahead) m = none) ↔
        ∀ m < k, memberAt? below m = none := by
    apply forall_congr'
    intro m
    apply forall_congr'
    intro hm
    rw [memberAt?, htake hk m (Nat.le_of_lt hm)]
    rfl
  simp only [detect?, Option.map_eq_some_iff, Prod.exists, firstMember?_eq_some_iff]
  constructor
  · intro h
    obtain ⟨_, line, member, ⟨k, rfl, hl, hm, hf⟩, rfl⟩ := h
    have hk : k < lookahead := by
      have := (List.getElem?_eq_some_iff.1 hl).1
      rw [List.length_take] at this
      omega
    rw [htake hk k (Nat.le_refl k)] at hl
    exact ⟨k, line, member, hk, hl, hm, (hfirst hk).1 hf, rfl⟩
  · intro h
    obtain ⟨k, line, member, hk, hl, hm, hf, rfl⟩ := h
    rw [← htake hk k (Nat.le_refl k)] at hl
    exact ⟨_, line, member, ⟨k, rfl, hl, hm, (hfirst hk).2 hf⟩, rfl⟩

theorem getElem?_of_drop_eq {rest : List Line} (h : ls.drop i = rest) (k : Nat) :
    rest[k]? = ls[i + k]? := by
  rw [← h, List.getElem?_drop]

theorem detectionAt?_eq_some_iff :
    detectionAt? 1 ls i = some d ↔ ∃ j, Marks ls i j ∧ d.Records ls i j := by
  cases hd : ls.drop i with
  | nil =>
    have hi : ls[i]? = none := (getElem?_of_drop_eq hd 0).symm
    simp only [detectionAt?, hd]
    constructor
    · exact nofun
    · intro h
      obtain ⟨j, hj, _⟩ := h
      have h := hj.annotation
      simp [annotationAt, hi] at h
  | cons marked rest =>
    have hi : ls[i]? = some marked := (getElem?_of_drop_eq hd 0).symm
    have hrest (k : Nat) : rest[k]? = ls[i + (k + 1)]? := getElem?_of_drop_eq hd (k + 1)
    have hmem (k : Nat) : memberAt? rest k = memberAt? ls (i + (k + 1)) := by
      rw [memberAt?, hrest]
      rfl
    have ha : annotationAt ls i = isAnnotationLine marked := by
      rw [annotationAt, hi]
      rfl
    simp only [detectionAt?, hd, Option.ite_none_right_eq_some, detect?_eq_some_iff, hrest, hmem]
    constructor
    · intro h
      obtain ⟨hmark, k, line, member, hk, hl, hm, hf, rfl⟩ := h
      refine ⟨i + (k + 1), ⟨ha.trans hmark, by omega, ?_, ?_, ?_⟩, ?_⟩
      · simp only [lookahead] at hk
        omega
      · exact memberAt?_isSome_iff.2 ⟨line, member, hl, hm⟩
      · intro m him hmj
        obtain ⟨m, rfl⟩ : ∃ m', m = i + (m' + 1) := ⟨m - i - 1, by omega⟩
        exact hf m (by omega)
      · refine ⟨marked, line, member, hi, hl, hm, ?_⟩
        simp only [Detection.mk.injEq, and_self, and_true]
        omega
    · intro h
      obtain ⟨j, hj, marked', line, member, hi', hl, hm, rfl⟩ := h
      obtain rfl : marked' = marked := Option.some.inj (hi'.symm.trans hi)
      have hb := hj.below
      have hn := hj.near
      obtain ⟨k, rfl⟩ : ∃ k, j = i + (k + 1) := ⟨j - i - 1, by omega⟩
      refine ⟨ha.symm.trans hj.annotation, k, line, member, ?_, hl, hm, ?_, ?_⟩
      · simp only [lookahead]
        omega
      · intro m h
        exact hj.first (i + (m + 1)) (by omega) (by omega)
      · simp only [Detection.mk.injEq, and_self, and_true]
        omega

theorem Marks.lt_length (h : Marks ls i j) : j < ls.length := lt_length_of_memberAt? h.declares

theorem Marks.exists_iff : (∃ j, Marks ls i j) ↔
    annotationAt ls i = true ∧
      ∃ j, i < j ∧ j ≤ min (i + 4) (ls.length - 1) ∧ (memberAt? ls j).isSome = true := by
  constructor
  · intro h
    obtain ⟨j, h⟩ := h
    have hn := h.near
    have hl := h.lt_length
    exact ⟨h.annotation, j, h.below, by omega, h.declares⟩
  · intro h
    obtain ⟨ha, j, hb, hn, hd⟩ := h
    induction j using Nat.strongRecOn with
    | ind j ih =>
      by_cases hk : ∃ k, i < k ∧ k < j ∧ (memberAt? ls k).isSome = true
      · obtain ⟨k, hik, hkj, hdk⟩ := hk
        exact ih k hkj hik (by omega) hdk
      · have hfirst : ∀ k, i < k → k < j → memberAt? ls k = none := by
          intro k hik hkj
          exact Option.not_isSome_iff_eq_none.1 fun hdk => hk ⟨k, hik, hkj, hdk⟩
        exact ⟨j, ha, hb, by omega, hd, hfirst⟩

theorem Marks.exists_records (h : Marks ls i j) : ∃ d : Detection, d.Records ls i j := by
  obtain ⟨marked, hi, _⟩ := (Option.any_eq_true _ _).1 h.annotation
  obtain ⟨line, member, hl, hm⟩ := memberAt?_isSome_iff.1 h.declares
  exact ⟨_, marked, line, member, hi, hl, hm, rfl⟩

/-- Annotations further down find no earlier member, however their windows overlap. -/
theorem Marks.le_of_lt (h : Marks ls i j) (h' : Marks ls i' j') (hi : i < i') : j ≤ j' := by
  apply Nat.le_of_not_lt
  intro hj
  have hd := h'.declares
  rw [h.first j' (Nat.lt_trans hi h'.below) hj] at hd
  cases hd

theorem Detection.Records.line_eq (h : d.Records ls i j) : d.line = j + 1 := by
  obtain ⟨marked, line, member, _, _, _, rfl⟩ := h
  rfl

theorem Detection.Records.exists_member (h : d.Records ls i j) :
    ∃ member, memberAt? ls j = some member ∧ d.name = String.ofList member.name ∧
      d.initializer = member.initializer.map trimmed := by
  obtain ⟨marked, line, member, _, hl, hm, rfl⟩ := h
  have hj : memberAt? ls j = some member := by
    rw [memberAt?, hl]
    exact hm
  exact ⟨member, hj, rfl, rfl⟩

/-- The detections beside the indices of their annotations. -/
def detectionTable (ls : List Line) : List (Nat × Detection) :=
  (List.range ls.length).filterMap fun i => (detectionAt? 1 ls i).map (i, ·)

theorem map_snd_detectionTable (ls : List Line) :
    (detectionTable ls).map (·.2) = detections ls := by
  rw [detections_eq_filterMap, detectionTable, List.map_filterMap]
  congr 1
  funext i
  cases detectionAt? 1 ls i <;> rfl

theorem mem_detectionTable_iff :
    (i, d) ∈ detectionTable ls ↔ ∃ j, Marks ls i j ∧ d.Records ls i j := by
  simp only [detectionTable, List.mem_filterMap, List.mem_range, Option.map_eq_some_iff,
    Prod.mk.injEq]
  constructor
  · intro h
    obtain ⟨_, _, _, hd, rfl, rfl⟩ := h
    exact detectionAt?_eq_some_iff.1 hd
  · intro h
    obtain ⟨j, hj, hr⟩ := h
    have hi : i < ls.length := Nat.lt_trans hj.below hj.lt_length
    exact ⟨i, hi, d, detectionAt?_eq_some_iff.2 ⟨j, hj, hr⟩, rfl, rfl⟩

theorem detectionTable_pairwise (ls : List Line) :
    (detectionTable ls).Pairwise fun a b => a.1 < b.1 := by
  apply List.Pairwise.filterMap _ _ List.pairwise_lt_range
  intro i i' hi a ha b hb
  obtain ⟨d, _, rfl⟩ := Option.map_eq_some_iff.1 ha
  obtain ⟨d', _, rfl⟩ := Option.map_eq_some_iff.1 hb
  exact hi

theorem mem_detections_iff :
    d ∈ detections ls ↔ ∃ i j, Marks ls i j ∧ d.Records ls i j := by
  rw [← map_snd_detectionTable, List.mem_map]
  constructor
  · intro h
    obtain ⟨⟨i, d⟩, hd, rfl⟩ := h
    exact ⟨i, mem_detectionTable_iff.1 hd⟩
  · intro h
    obtain ⟨i, h⟩ := h
    exact ⟨(i, d), mem_detectionTable_iff.2 h, rfl⟩

theorem detections_line_pairwise (ls : List Line) :
    (detections ls).Pairwise fun a b => a.line ≤ b.line := by
  rw [← map_snd_detectionTable, List.pairwise_map]
  apply (detectionTable_pairwise ls).imp_of_mem
  intro (i, a) (i', b) ha hb hi
  obtain ⟨j, hj, hr⟩ := mem_detectionTable_iff.1 ha
  obtain ⟨j', hj', hr'⟩ := mem_detectionTable_iff.1 hb
  have hle := hj.le_of_lt hj' hi
  rw [hr.line_eq, hr'.line_eq]
  omega

theorem detections_line_bounds (hd : d ∈ detections ls) : 1 ≤ d.line ∧ d.line ≤ ls.length := by
  obtain ⟨i, j, hj, hr⟩ := mem_detections_iff.1 hd
  have hl := hj.lt_length
  rw [hr.line_eq]
  omega

/-- Only the four lines above a member can hold annotations that stand for it. -/
theorem detections_line_count (ls : List Line) (n : Int) :
    ((detections ls).filter fun d => d.line = n).length ≤ 4 := by
  let own := (detectionTable ls).filter fun e => e.2.line = n
  have he : (detections ls).filter (fun d => d.line = n) = own.map (·.2) := by
    rw [← map_snd_detectionTable, List.filter_map]
    rfl
  have hnodup : (own.map (·.1)).Nodup := by
    apply List.pairwise_map.2
    apply ((detectionTable_pairwise ls).filter _).imp
    exact Nat.ne_of_lt
  have hsub : own.map (·.1) ⊆ List.range' (n.toNat - 5) 4 := by
    intro i hi
    obtain ⟨⟨i, d⟩, hd, rfl⟩ := List.mem_map.1 hi
    obtain ⟨hd, hn⟩ := List.mem_filter.1 hd
    obtain ⟨j, hj, hr⟩ := mem_detectionTable_iff.1 hd
    have hb := hj.below
    have hnear := hj.near
    have hl := hr.line_eq
    simp only [decide_eq_true_eq] at hn
    rw [List.mem_range'_1]
    omega
  have h := hnodup.length_le_of_subset hsub
  rw [he]
  simpa using h

/-- In an ordered list the detections of one line are consecutive. -/
theorem exists_eq_append_filter {ds : List Detection}
    (h : ds.Pairwise fun a b => a.line ≤ b.line) (n : Int) :
    ∃ before after, ds = before ++ ds.filter (fun d => d.line = n) ++ after ∧
      (∀ d ∈ before, d.line < n) ∧ ∀ d ∈ after, n < d.line := by
  induction ds with
  | nil => exact ⟨[], [], rfl, by simp, by simp⟩
  | cons d ds ih =>
    obtain ⟨hd, hds⟩ := List.pairwise_cons.1 h
    obtain ⟨before, after, he, hb, ha⟩ := ih hds
    rcases Int.lt_trichotomy d.line n with hn | hn | hn
    · refine ⟨d :: before, after, ?_, by simpa [hn] using hb, ha⟩
      have hf : (d :: ds).filter (fun d => d.line = n) = ds.filter fun d => d.line = n :=
        List.filter_cons_of_neg (by simpa using Int.ne_of_lt hn)
      rw [hf, List.cons_append, List.cons_append, ← he]
    · -- Nothing in the tail can stand before the line that its own head has.
      have hnil : before = [] := by
        cases before with
        | nil => rfl
        | cons b before =>
          have hle := hd b (by rw [he]; simp)
          have hlt := hb b List.mem_cons_self
          omega
      have hf : (d :: ds).filter (fun d => d.line = n) = d :: ds.filter fun d => d.line = n :=
        List.filter_cons_of_pos (by simpa using hn)
      refine ⟨[], after, ?_, by simp, ha⟩
      rw [hnil] at he
      rw [hf, List.nil_append, List.cons_append]
      exact congrArg (d :: ·) he
    · have hall : ∀ e ∈ d :: ds, n < e.line := by
        intro e he
        rcases List.mem_cons.1 he with rfl | he
        · exact hn
        · exact Int.lt_of_lt_of_le hn (hd e he)
      have hf : (d :: ds).filter (fun d => d.line = n) = [] := by
        apply List.filter_eq_nil_iff.2
        intro e he
        simpa using (Int.ne_of_lt (hall e he)).symm
      refine ⟨[], d :: ds, ?_, by simp, hall⟩
      rw [hf]
      rfl

/-- Every annotation with a member near below it gives one detection, of the nearest such member;
there are no others, and they stand in the order of the annotations and of the members alike. -/
theorem detections_match_annotations (ls : List Line) :
    (∃ table : List (Nat × Detection),
      table.map (·.2) = detections ls ∧
      table.Pairwise (fun a b => a.1 < b.1) ∧
      (∀ i d, (i, d) ∈ table ↔ ∃ j, Marks ls i j ∧ d.Records ls i j) ∧
      ∀ i, (∃ d, (i, d) ∈ table) ↔
        annotationAt ls i = true ∧
          ∃ j, i < j ∧ j ≤ min (i + 4) (ls.length - 1) ∧ (memberAt? ls j).isSome = true) ∧
    (detections ls).Pairwise (fun a b => a.line ≤ b.line) ∧
    (∀ d ∈ detections ls, 1 ≤ d.line ∧ d.line ≤ ls.length) ∧
    ∀ n : Int, ∃ before own after, detections ls = before ++ own ++ after ∧ own.length ≤ 4 ∧
      (∀ d ∈ own, d.line = n) ∧ ∀ d ∈ before ++ after, d.line ≠ n := by
  refine ⟨⟨detectionTable ls, map_snd_detectionTable ls, detectionTable_pairwise ls,
    fun _ _ => mem_detectionTable_iff, fun i => ?_⟩, detections_line_pairwise ls,
    fun _ => detections_line_bounds, fun n => ?_⟩
  · simp only [mem_detectionTable_iff, ← Marks.exists_iff]
    constructor
    · intro h
      obtain ⟨d, j, hj, _⟩ := h
      exact ⟨j, hj⟩
    · intro h
      obtain ⟨j, hj⟩ := h
      obtain ⟨d, hr⟩ := hj.exists_records
      exact ⟨d, j, hj, hr⟩
  · obtain ⟨before, after, he, hb, ha⟩ :=
      exists_eq_append_filter (detections_line_pairwise ls) n
    refine ⟨before, _, after, he, detections_line_count ls n, ?_, ?_⟩
    · intro d hd
      simpa using (List.mem_filter.1 hd).2
    · intro d hd
      rcases List.mem_append.1 hd with hd | hd
      · exact Int.ne_of_lt (hb d hd)
      · exact (Int.ne_of_lt (ha d hd)).symm

end GuidAudit
