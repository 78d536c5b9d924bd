import GuidAudit.Header
import GuidAudit.Suppression.KeySet

namespace GuidAudit

theorem KeyForm.mem_all (form : KeyForm) : form ∈ KeyForm.all := by
  cases form <;> decide

namespace KeySet

variable {s : KeySet} {file owner name key : String}

theorem mem_singleton {k : String} : ↑k ∈ ofList [↑key] ↔ k = key := by
  rw [mem_ofList, List.mem_singleton, UnitText.ofString_inj]

theorem find?_eq_find?_map (s : KeySet) (file owner name : String) :
    s.find? file owner name =
      (KeyForm.all.map (KeyForm.key file owner name)).find? fun k : String => ↑k ∈ s := by
  rw [find?, candidates, List.find?_map, List.find?_map, Option.map_map]
  rfl

theorem find?_eq_none_iff :
    s.find? file owner name = none ↔ ∀ form : KeyForm, ↑(form.key file owner name) ∉ s := by
  rw [find?_eq_find?_map, List.find?_eq_none]
  constructor
  · intro h form hk
    exact h _ (List.mem_map_of_mem form.mem_all) (decide_eq_true hk)
  · intro h k hk
    obtain ⟨form, _, rfl⟩ := List.mem_map.1 hk
    simpa using h form

theorem find?_isSome_iff :
    (s.find? file owner name).isSome = true ↔
      ∃ form : KeyForm, ↑(form.key file owner name) ∈ s := by
  rw [Option.isSome_iff_ne_none, ne_eq, find?_eq_none_iff, Classical.not_forall]
  simp only [Classical.not_not]

theorem mem_of_find? (h : s.find? file owner name = some key) : ↑key ∈ s := by
  rw [find?_eq_find?_map] at h
  simpa using List.find?_some h

/-- A smaller set that keeps the key found finds it again. -/
theorem find?_eq_of_subset {t : KeySet} (hsub : ∀ k ∈ t, k ∈ s)
    (hkeep : ∀ k, s.find? file owner name = some k → ↑k ∈ t) :
    t.find? file owner name = s.find? file owner name := by
  cases hs : s.find? file owner name with
  | none => exact find?_eq_none_iff.2 fun form hk => find?_eq_none_iff.1 hs form (hsub _ hk)
  | some key =>
    have hkey := hkeep key hs
    rw [find?_eq_find?_map] at hs ⊢
    -- The candidates before the one found are not in the larger set, so not in the smaller one.
    obtain ⟨_, before, after, he, hbefore⟩ := List.find?_eq_some_iff_append.1 hs
    refine List.find?_eq_some_iff_append.2 ⟨by simpa using hkey, before, after, he, ?_⟩
    intro k hk
    have hn : ↑k ∉ s := by simpa using hbefore k hk
    simpa using fun ht => hn (hsub _ ht)

end KeySet

variable {a b u v : List Char}

def IsIdentifier (s : String) : Prop := s ≠ "" ∧ ∀ c ∈ s.toList, isWord c = true

theorem IsIdentifier.not_mem {s : String} (h : IsIdentifier s) {c : Char}
    (hc : isWord c = false) : c ∉ s.toList := by
  intro hm
  rw [h.2 c hm] at hc
  cases hc

/-- A member by the names that its keys are written with. Any characters may stand in the path of
its header. -/
structure Occurrence where
  file : String
  owner : String
  name : String
  header : headerSuffix.toList <:+ file.toList
  owner_identifier : IsIdentifier owner
  name_identifier : IsIdentifier name

def Occurrence.key (o : Occurrence) (form : KeyForm) : String := form.key o.file o.owner o.name

def KeySet.Suppresses (s : KeySet) (o : Occurrence) : Prop :=
  (s.find? o.file o.owner o.name).isSome = true

/-- What two members share if a key of the one is also a key of the other. -/
def KeyForm.Agree (o o' : Occurrence) : KeyForm → Prop
  | .fileStructProperty => o.file = o'.file ∧ o.owner = o'.owner ∧ o.name = o'.name
  | .structProperty => o.owner = o'.owner ∧ o.name = o'.name
  | .anyStructProperty => o.name = o'.name
  | .file => o.file = o'.file

/-- A text can be cut at the last of its colons, or of its blanks, in one way only. -/
theorem append_last_inj {c : Char} (hu : c ∉ u) (hv : c ∉ v) (h : a ++ c :: u = b ++ c :: v) :
    a = b ∧ u = v := by
  have aux {a b u v : List Char} (hu : c ∉ u) (t : List Char) (hb : b = a ++ t)
      (ht : c :: u = t ++ c :: v) : a = b ∧ u = v := by
    cases t with
    | nil => exact ⟨by rw [hb, List.append_nil], (List.cons.inj ht).2⟩
    | cons d t =>
      have h := (List.cons.inj ht).2
      exact absurd (h ▸ List.mem_append_right t List.mem_cons_self) hu
  rcases List.append_eq_append_iff.1 h with ⟨t, hb, ht⟩ | ⟨t, ha, ht⟩
  · exact aux hu t hb ht
  · obtain ⟨hba, hvu⟩ := aux hv t ha ht
    exact ⟨hba.symm, hvu.symm⟩

theorem append_scope_inj (hu : ':' ∉ u) (hv : ':' ∉ v)
    (h : a ++ ':' :: ':' :: u = b ++ ':' :: ':' :: v) : a = b ∧ u = v := by
  have h' : (a ++ [':']) ++ ':' :: u = (b ++ [':']) ++ ':' :: v := by simpa using h
  obtain ⟨hab, huv⟩ := append_last_inj hu hv h'
  exact ⟨List.append_cancel_right hab, huv⟩

namespace Occurrence

variable {o o' : Occurrence} {form form' : KeyForm} {scope : List Char}

theorem colon_not_mem_owner (o : Occurrence) : ':' ∉ o.owner.toList :=
  o.owner_identifier.not_mem (by decide)

theorem colon_not_mem_name (o : Occurrence) : ':' ∉ o.name.toList :=
  o.name_identifier.not_mem (by decide)

/-- What stands in a key before the name, unless the key is a file. -/
def scope? (o : Occurrence) : KeyForm → Option (List Char)
  | .fileStructProperty => some (o.file.toList ++ ':' :: o.owner.toList)
  | .structProperty => some o.owner.toList
  | .anyStructProperty => some ['*']
  | .file => none

theorem key_toList (h : o.scope? form = some scope) :
    (o.key form).toList = scope ++ ':' :: ':' :: o.name.toList := by
  cases form with
  | file => cases h
  | _ =>
    cases h
    simp [key, KeyForm.key]

theorem eq_file_of_scope? (h : o.scope? form = none) : form = .file := by
  cases form with
  | file => rfl
  | _ => cases h

/-- A colon before the name shows that the file is given, and a star that the owner is not. -/
theorem agree_of_scope?_eq (h : o.scope? form = some scope) (h' : o'.scope? form' = some scope)
    (hn : o.name = o'.name) : form = form' ∧ form.Agree o o' := by
  have hfile {o o' : Occurrence} :
      o.file.toList ++ ':' :: o.owner.toList ≠ o'.owner.toList := by
    intro he
    exact o'.colon_not_mem_owner (he ▸ List.mem_append_right _ List.mem_cons_self)
  have hstar {o : Occurrence} : o.owner.toList ≠ ['*'] := by
    intro he
    exact o.owner_identifier.not_mem (c := '*') (by decide) (he ▸ List.mem_cons_self)
  have hany {o : Occurrence} : o.file.toList ++ ':' :: o.owner.toList ≠ ['*'] := by
    intro he
    have hm : ':' ∈ ['*'] := he ▸ List.mem_append_right _ List.mem_cons_self
    exact absurd hm (by decide)
  rw [← h'] at h
  cases form with
  | fileStructProperty =>
    cases form' with
    | fileStructProperty =>
      obtain ⟨hf, ho⟩ := append_last_inj o.colon_not_mem_owner o'.colon_not_mem_owner
        (Option.some.inj h)
      exact ⟨rfl, String.toList_inj.1 hf, String.toList_inj.1 ho, hn⟩
    | structProperty => exact absurd (Option.some.inj h) hfile
    | anyStructProperty => exact absurd (Option.some.inj h) hany
    | file => cases h
  | structProperty =>
    cases form' with
    | fileStructProperty => exact absurd (Option.some.inj h).symm hfile
    | structProperty => exact ⟨rfl, String.toList_inj.1 (Option.some.inj h), hn⟩
    | anyStructProperty => exact absurd (Option.some.inj h) hstar
    | file => cases h
  | anyStructProperty =>
    cases form' with
    | fileStructProperty => exact absurd (Option.some.inj h).symm hany
    | structProperty => exact absurd (Option.some.inj h).symm hstar
    | anyStructProperty => exact ⟨rfl, hn⟩
    | file => cases h
  | file => exact absurd (h.trans h') nofun

/-- No name is long enough to hold the dot that a header has before its last letter. -/
theorem scoped_ne_file (scope : List Char) (o o' : Occurrence) :
    scope ++ ':' :: ':' :: o.name.toList ≠ o'.file.toList := by
  intro he
  have hname : ':' :: o.name.toList <:+ o'.file.toList := ⟨scope ++ [':'], by simpa using he⟩
  have hne : o.name.toList ≠ [] := fun h => o.name_identifier.1 (String.toList_eq_nil_iff.1 h)
  have hlen : headerSuffix.toList.length ≤ (':' :: o.name.toList).length := by
    have hpos := List.length_pos_iff.2 hne
    have htwo : headerSuffix.toList.length = 2 := by decide
    rw [htwo, List.length_cons]
    omega
  have hdot : '.' ∈ ':' :: o.name.toList :=
    (List.suffix_of_suffix_length_le o'.header hname hlen).mem (by decide)
  rcases List.mem_cons.1 hdot with h | h
  · exact absurd h (by decide)
  · exact o.name_identifier.not_mem (by decide) h

theorem key_eq_key_iff : o.key form = o'.key form' ↔ form = form' ∧ form.Agree o o' := by
  constructor
  · intro h
    have hl := String.toList_inj.2 h
    cases hs : o.scope? form with
    | none =>
      obtain rfl := eq_file_of_scope? hs
      cases hs' : o'.scope? form' with
      | none =>
        obtain rfl := eq_file_of_scope? hs'
        exact ⟨rfl, h⟩
      | some scope' =>
        rw [key_toList hs'] at hl
        exact absurd hl.symm (scoped_ne_file scope' o' o)
    | some scope =>
      rw [key_toList hs] at hl
      cases hs' : o'.scope? form' with
      | none =>
        obtain rfl := eq_file_of_scope? hs'
        exact absurd hl (scoped_ne_file scope o o')
      | some scope' =>
        rw [key_toList hs'] at hl
        obtain ⟨rfl, hn⟩ := append_scope_inj o.colon_not_mem_name o'.colon_not_mem_name hl
        exact agree_of_scope?_eq hs hs' (String.toList_inj.1 hn)
  · intro h
    obtain ⟨rfl, h⟩ := h
    cases form with
    | fileStructProperty =>
      obtain ⟨hf, ho, hn⟩ := h
      rw [key, hf, ho, hn]
      rfl
    | structProperty =>
      obtain ⟨ho, hn⟩ := h
      simp only [key, KeyForm.key, ho, hn]
    | anyStructProperty => exact congrArg ("*::" ++ ·) h
    | file => exact h

end Occurrence

/-- A key suppresses the members that agree with its own member in all that it is written with, and
no others; it is never taken for a key of another form. -/
theorem singleton_suppresses_iff_agree (form : KeyForm) (o o' : Occurrence) :
    ((KeySet.ofList [o.key form]).Suppresses o' ↔ form.Agree o o') ∧
    ∀ form', o.key form = o'.key form' → form = form' := by
  refine ⟨?_, fun form' h => (Occurrence.key_eq_key_iff.1 h).1⟩
  rw [KeySet.Suppresses, KeySet.find?_isSome_iff]
  simp only [KeySet.mem_singleton]
  constructor
  · intro h
    obtain ⟨form', h⟩ := h
    exact (Occurrence.key_eq_key_iff.1 h.symm).2
  · intro h
    exact ⟨form, (Occurrence.key_eq_key_iff.2 ⟨rfl, h⟩).symm⟩

-- The path of a header may begin like a key.
example : ∃ o : Occurrence, o.file = "S::Id:*/A.h" ∧ o.key .structProperty = "S::Id" := by
  have howner : IsIdentifier "S" := ⟨by decide, List.all_eq_true.1 (by decide)⟩
  have hname : IsIdentifier "Id" := ⟨by decide, List.all_eq_true.1 (by decide)⟩
  exact ⟨⟨"S::Id:*/A.h", "S", "Id", by decide, howner, hname⟩, rfl, rfl⟩

end GuidAudit
