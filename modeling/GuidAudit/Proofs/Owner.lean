import GuidAudit.Header
import GuidAudit.Proofs.Detection
import GuidAudit.Proofs.KeyScope

namespace GuidAudit

variable {ls : List Line} {owner : String} {i j : Nat}

def structNameAt? (ls : List Line) (i : Nat) : Option (List Char) := ls[i]?.bind structName?

/-- The owner is named by the nearest struct header above, or unknown where there is none. -/
def OwnedBy (ls : List Line) (j : Nat) (owner : String) : Prop :=
  (∃ i name, i < j ∧ structNameAt? ls i = some name ∧ owner = String.ofList name ∧
    ∀ k, i < k → k < j → structNameAt? ls k = none) ∨
  (owner = "UnknownStruct" ∧ ∀ k, k < j → structNameAt? ls k = none)

theorem structNameAt?_eq_none_of_length_le (h : ls.length ≤ i) : structNameAt? ls i = none := by
  rw [structNameAt?, List.getElem?_eq_none h]
  rfl

theorem structNameAt?_take (h : i < j) : structNameAt? (ls.take j) i = structNameAt? ls i := by
  rw [structNameAt?, List.getElem?_take_of_lt h]
  rfl

theorem findSome?_reverse_eq_some {name : List Char}
    (h : ls.reverse.findSome? structName? = some name) :
    ∃ i, structNameAt? ls i = some name ∧ ∀ k, i < k → structNameAt? ls k = none := by
  obtain ⟨after, line, before, he, hname, hafter⟩ := List.findSome?_eq_some_iff.1 h
  have hls : ls = before.reverse ++ line :: after.reverse := by
    rw [← List.reverse_reverse ls, he]
    simp
  have hi : ls[before.length]? = some line := by simp [hls]
  refine ⟨before.length, ?_, ?_⟩
  · rw [structNameAt?, hi]
    exact hname
  · intro k hk
    cases hl : ls[k]? with
    | none => rw [structNameAt?, hl]; rfl
    | some other =>
      have hmem : other ∈ after := by
        rw [hls, List.getElem?_append_right (by simpa using Nat.le_of_lt hk)] at hl
        obtain ⟨m, hm⟩ : ∃ m, k - before.reverse.length = m + 1 :=
          ⟨k - before.length - 1, by rw [List.length_reverse]; omega⟩
        rw [hm, List.getElem?_cons_succ] at hl
        exact List.mem_reverse.1 (List.mem_of_getElem? hl)
      rw [structNameAt?, hl]
      exact hafter other hmem

theorem findSome?_reverse_eq_none (h : ls.reverse.findSome? structName? = none) (i : Nat) :
    structNameAt? ls i = none := by
  cases hl : ls[i]? with
  | none => rw [structNameAt?, hl]; rfl
  | some line =>
    rw [structNameAt?, hl]
    exact List.findSome?_eq_none_iff.1 h line (List.mem_reverse.2 (List.mem_of_getElem? hl))

theorem ownedBy_ownerAt (ls : List Line) (j : Nat) : OwnedBy ls j (ownerAt ls j) := by
  simp only [ownerAt, Int.toNat_natCast]
  cases h : (ls.take j).reverse.findSome? structName? with
  | none =>
    refine .inr ⟨rfl, fun k hk => ?_⟩
    rw [← structNameAt?_take hk]
    exact findSome?_reverse_eq_none h k
  | some name =>
    obtain ⟨i, hi, hafter⟩ := findSome?_reverse_eq_some h
    have hij : i < j := by
      apply Nat.lt_of_not_le
      intro hji
      rw [structNameAt?_eq_none_of_length_le (by rw [List.length_take]; omega)] at hi
      cases hi
    refine .inl ⟨i, name, hij, ?_, rfl, fun k hik hkj => ?_⟩
    · rw [← structNameAt?_take hij]
      exact hi
    · rw [← structNameAt?_take hkj]
      exact hafter k hik

theorem OwnedBy.unique {owner' : String} (h : OwnedBy ls j owner) (h' : OwnedBy ls j owner') :
    owner = owner' := by
  rcases h with ⟨i, name, hij, hi, rfl, hafter⟩ | ⟨rfl, hnone⟩
  · rcases h' with ⟨i', name', hij', hi', rfl, hafter'⟩ | ⟨rfl, hnone'⟩
    · rcases Nat.lt_trichotomy i i' with hlt | rfl | hlt
      · exact absurd (hi'.symm.trans (hafter i' hlt hij')) nofun
      · rw [Option.some.inj (hi.symm.trans hi')]
      · exact absurd (hi.symm.trans (hafter' i hlt hij)) nofun
    · exact absurd (hi.symm.trans (hnone' i hij)) nofun
  · rcases h' with ⟨i', name', hij', hi', rfl, hafter'⟩ | ⟨rfl, hnone'⟩
    · exact absurd (hi'.symm.trans (hnone i' hij')) nofun
    · rfl

theorem ownerAt_eq_iff : ownerAt ls j = owner ↔ OwnedBy ls j owner := by
  constructor
  · rintro rfl
    exact ownedBy_ownerAt ls j
  · intro h
    exact (ownedBy_ownerAt ls j).unique h

theorem mem_properties_iff {file : String} {p : Property} : p ∈ properties file ls ↔
    ∃ i j, Marks ls i j ∧ p.toDetection.Records ls i j ∧ p.file = file ∧ OwnedBy ls j p.owner := by
  have hindex {d : Detection} {i j : Nat} (h : d.Records ls i j) : d.line - 1 = j := by
    rw [h.line_eq]
    omega
  constructor
  · intro hp
    obtain ⟨d, hd, rfl⟩ := List.mem_map.1 hp
    obtain ⟨i, j, hj, hr⟩ := mem_detections_iff.1 hd
    have ho : OwnedBy ls j (ownerAt ls (d.line - 1)) := by
      rw [hindex hr]
      exact ownedBy_ownerAt ls j
    exact ⟨i, j, hj, hr, rfl, ho⟩
  · intro h
    obtain ⟨i, j, hj, hr, rfl, ho⟩ := h
    refine List.mem_map.2 ⟨p.toDetection, mem_detections_iff.2 ⟨i, j, hj, hr⟩, ?_⟩
    rw [hindex hr, ownerAt_eq_iff.2 ho]

variable {s name : List Char} {file : String} {p : Property}

theorem declaredName?_isWord (h : declaredName? s = some name) :
    name ≠ [] ∧ ∀ c ∈ name, isWord c = true := by
  obtain ⟨⟨first, rest⟩, hfirst, h⟩ := Option.bind_eq_some_iff.1 h
  obtain ⟨_, hword⟩ := word?_eq_some hfirst
  simp only at h
  split at h
  · split at h
    · rename_i second _ hsecond
      obtain ⟨_, _, hsecond⟩ := Option.bind_eq_some_iff.1 hsecond
      obtain ⟨_, hword⟩ := word?_eq_some hsecond
      cases h
      exact hword
    · cases h
      exact hword
  · cases h
    exact hword

theorem structName?_isWord (h : structName? s = some name) :
    name ≠ [] ∧ ∀ c ∈ name, isWord c = true := by
  obtain ⟨_, _, h⟩ := Option.bind_eq_some_iff.1 h
  obtain ⟨_, _, h⟩ := Option.bind_eq_some_iff.1 h
  obtain ⟨_, _, h⟩ := Option.bind_eq_some_iff.1 h
  exact declaredName?_isWord h

theorem isIdentifier_ofList (h : name ≠ [] ∧ ∀ c ∈ name, isWord c = true) :
    IsIdentifier (String.ofList name) := by
  refine ⟨fun he => h.1 ?_, by rw [String.toList_ofList]; exact h.2⟩
  rw [← String.toList_ofList (l := name), he]
  rfl

theorem OwnedBy.isIdentifier {ls : List Line} {j : Nat} {owner : String}
    (h : OwnedBy ls j owner) : IsIdentifier owner := by
  rcases h with ⟨i, name, _, hname, rfl, _⟩ | ⟨rfl, _⟩
  · obtain ⟨line, _, hname⟩ := Option.bind_eq_some_iff.1 hname
    exact isIdentifier_ofList (structName?_isWord hname)
  · exact ⟨by decide, List.all_eq_true.1 (by decide)⟩

theorem Member.ofLine?_isWord {line : Line} {member : Member}
    (h : Member.ofLine? line = some member) :
    member.name ≠ [] ∧ ∀ c ∈ member.name, isWord c = true := by
  obtain ⟨_, _, h⟩ := Option.bind_eq_some_iff.1 h
  obtain ⟨_, _, h⟩ := Option.bind_eq_some_iff.1 h
  obtain ⟨⟨name, rest⟩, hname, h⟩ := Option.bind_eq_some_iff.1 h
  obtain ⟨_, _, h⟩ := Option.bind_eq_some_iff.1 h
  simp only [Option.ite_none_right_eq_some, Option.some.injEq] at h
  obtain ⟨_, rfl⟩ := h
  exact (word?_eq_some hname).2

theorem name_isIdentifier_of_mem {ls : List Line} (h : p ∈ properties file ls) :
    IsIdentifier p.name := by
  obtain ⟨_, _, _, hrecords, _⟩ := mem_properties_iff.1 h
  obtain ⟨member, hmember, hname, _⟩ := hrecords.exists_member
  obtain ⟨_, _, hline⟩ := Option.bind_eq_some_iff.1 hmember
  rw [hname]
  exact isIdentifier_ofList (Member.ofLine?_isWord hline)

theorem owner_isIdentifier_of_mem {ls : List Line} (h : p ∈ properties file ls) :
    IsIdentifier p.owner := by
  obtain ⟨_, _, _, _, _, howner⟩ := mem_properties_iff.1 h
  exact howner.isIdentifier

end GuidAudit
