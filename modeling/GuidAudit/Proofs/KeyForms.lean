import GuidAudit.Audit
import GuidAudit.Proofs.KeyScope

namespace GuidAudit

variable {s name scope : List Char} {key : String}

/-- Two colons in a row. -/
def Scoped (s : List Char) : Prop := "::".toList <:+: s

theorem scoped_cons_iff {c : Char} :
    Scoped (c :: s) ↔ (c = ':' ∧ s.head? = some ':') ∨ Scoped s := by
  have hnext : [':'] <+: s ↔ s.head? = some ':' := by
    cases s with
    | nil => simp
    | cons d s => simp [eq_comm]
  have hscope : "::".toList = [':', ':'] := rfl
  rw [Scoped, Scoped, List.infix_cons_iff, hscope, List.cons_prefix_cons, hnext, eq_comm]

theorem colon_mem_of_scoped (h : Scoped s) : ':' ∈ s := h.mem List.mem_cons_self

/-- There is no last scope exactly where there is none at all. -/
theorem beforeLastScope?_eq_none_iff : beforeLastScope? s = none ↔ ¬ Scoped s := by
  induction s with
  | nil => exact iff_of_true rfl fun h => absurd (colon_mem_of_scoped h) List.not_mem_nil
  | cons c s ih =>
    rw [beforeLastScope?, scoped_cons_iff]
    cases hs : beforeLastScope? s with
    | none =>
      have hnone := ih.1 hs
      simp [hnone]
    | some head =>
      have hsome : Scoped s := by
        apply Classical.not_not.1
        intro hnone
        rw [ih.2 hnone] at hs
        cases hs
      simp [hsome]

theorem beforeLastScope?_append (h : ':' ∉ name) (scope : List Char) :
    beforeLastScope? (scope ++ ':' :: ':' :: name) = some scope := by
  induction scope with
  | nil =>
    have hlast : beforeLastScope? (':' :: name) = none := by
      rw [beforeLastScope?_eq_none_iff, scoped_cons_iff]
      rintro (⟨_, hcolon⟩ | hscoped)
      · exact h (List.mem_of_head? hcolon)
      · exact h (colon_mem_of_scoped hscoped)
    simp [beforeLastScope?.eq_2, hlast]
  | cons c scope ih => rw [List.cons_append, beforeLastScope?, ih]

theorem isSome_after?_iff {w : List Char} : (after? w s).isSome = true ↔ w <+: s := by
  rw [Option.isSome_iff_exists]
  simp only [after?_eq_some_iff, List.IsPrefix, eq_comm]

namespace KeyForm

theorem ofKey_of_star (h : "*::".toList <+: key.toList) : ofKey key = .anyStructProperty := by
  rw [ofKey, UnitText.shown_ofString, if_pos (isSome_after?_iff.2 h)]

theorem ofKey_of_scope (hstar : ¬ "*::".toList <+: key.toList) (hname : ':' ∉ name)
    (hkey : key.toList = scope ++ ':' :: ':' :: name) :
    ofKey key = if ':' ∈ scope then .fileStructProperty else .structProperty := by
  rw [ofKey, UnitText.shown_ofString, if_neg (mt isSome_after?_iff.1 hstar), hkey,
    beforeLastScope?_append hname]

theorem ofKey_of_not_scoped (hstar : ¬ "*::".toList <+: key.toList) (h : ¬ Scoped key.toList) :
    ofKey key = .file := by
  rw [ofKey, UnitText.shown_ofString, if_neg (mt isSome_after?_iff.1 hstar),
    beforeLastScope?_eq_none_iff.2 h]

end KeyForm

namespace Occurrence

variable {o : Occurrence}

theorem not_star_prefix_file (h : ¬ Scoped o.file.toList) : ¬ "*::".toList <+: o.file.toList := by
  intro hstar
  have hscope : "::".toList <:+ "*::".toList := ⟨['*'], rfl⟩
  exact h (hscope.isInfix.trans hstar.isInfix)

/-- The star would have to stand in the path, which holds no scope and does not end before one. -/
theorem not_star_prefix_file_append (h : ¬ Scoped o.file.toList) (rest : List Char) :
    ¬ "*::".toList <+: o.file.toList ++ rest := by
  intro hstar
  have hlength : headerSuffix.toList.length ≤ o.file.toList.length := o.header.length_le
  rcases Nat.lt_or_ge 2 o.file.toList.length with hlong | hshort
  · apply not_star_prefix_file h
    exact List.prefix_of_prefix_length_le hstar (List.prefix_append _ _) hlong
  · have hfile : headerSuffix.toList = o.file.toList :=
      o.header.eq_of_length (Nat.le_antisymm hlength hshort)
    rw [← hfile] at hstar
    exact absurd (List.cons_prefix_cons.1 hstar).1 (by decide)

theorem not_star_prefix_owner_append (o : Occurrence) (rest : List Char) :
    ¬ "*::".toList <+: o.owner.toList ++ rest := by
  intro hstar
  have hne : o.owner.toList ≠ [] := fun h => o.owner_identifier.1 (String.toList_eq_nil_iff.1 h)
  obtain ⟨c, t, howner⟩ := List.exists_cons_of_ne_nil hne
  rw [howner] at hstar
  obtain rfl : '*' = c := (List.cons_prefix_cons.1 hstar).1
  exact o.owner_identifier.not_mem (c := '*') (by decide) (howner ▸ List.mem_cons_self)

theorem ofKey_key (h : ¬ Scoped o.file.toList) (form : KeyForm) :
    KeyForm.ofKey (o.key form) = form := by
  cases form with
  | fileStructProperty =>
    have hkey : (o.key .fileStructProperty).toList =
        (o.file.toList ++ ':' :: o.owner.toList) ++ ':' :: ':' :: o.name.toList := key_toList rfl
    have hstar : ¬ "*::".toList <+: (o.key .fileStructProperty).toList := by
      rw [hkey, List.append_assoc]
      exact not_star_prefix_file_append h _
    rw [KeyForm.ofKey_of_scope hstar o.colon_not_mem_name hkey]
    exact if_pos (List.mem_append_right _ List.mem_cons_self)
  | structProperty =>
    have hkey : (o.key .structProperty).toList = o.owner.toList ++ ':' :: ':' :: o.name.toList :=
      key_toList rfl
    have hstar : ¬ "*::".toList <+: (o.key .structProperty).toList := by
      rw [hkey]
      exact o.not_star_prefix_owner_append _
    rw [KeyForm.ofKey_of_scope hstar o.colon_not_mem_name hkey]
    exact if_neg o.colon_not_mem_owner
  | anyStructProperty =>
    have hkey : (o.key .anyStructProperty).toList = ['*'] ++ ':' :: ':' :: o.name.toList :=
      key_toList rfl
    exact KeyForm.ofKey_of_star ⟨o.name.toList, hkey.symm⟩
  | file => exact KeyForm.ofKey_of_not_scoped (not_star_prefix_file h) h

end Occurrence

theorem KeySet.form_of_mem_unused {keys matched : KeySet} {u : UnusedKey}
    (h : u ∈ keys.unused matched) : u.form = .ofKey u.key := by
  obtain ⟨key, _, rfl⟩ := List.mem_map.1 h
  rfl

/-- Where the path of a header holds no scope, every key of a member is taken for one of the form
that it was written in, whatever else stands in the path; and so it is labelled where it is
unused. -/
theorem key_form_inferred_as_written (o : Occurrence) (h : ¬ "::".toList <:+: o.file.toList) :
    (∀ c ∈ candidates o.file o.owner o.name, KeyForm.ofKey c.key = c.form) ∧
    ∀ (a : Auditor) (u : UnusedKey), u ∈ a.unused → ∀ form, u.key = o.key form → u.form = form := by
  refine ⟨fun c hc => ?_, fun a u hu form hkey => ?_⟩
  · obtain ⟨form, _, rfl⟩ := List.mem_map.1 hc
    exact Occurrence.ofKey_key h form
  · rw [KeySet.form_of_mem_unused hu, hkey]
    exact Occurrence.ofKey_key h form

/-- A path that begins like a key for any struct, and has colons of its own. -/
theorem key_form_inferred_of_starred_path :
    let a : Auditor := { config := { root := ".", keys := .ofList ["*:A:/B.h:S::Id"] } }
    ∃ o : Occurrence, o.file = "*:A:/B.h" ∧ ¬ "::".toList <:+: o.file.toList ∧
      (∀ c ∈ candidates o.file o.owner o.name, KeyForm.ofKey c.key = c.form) ∧
      ∃ u, a.unused = [u] ∧ u.key = o.key .fileStructProperty ∧ u.form = .fileStructProperty := by
  intro a
  have howner : IsIdentifier "S" := ⟨by decide, List.all_eq_true.1 (by decide)⟩
  have hname : IsIdentifier "Id" := ⟨by decide, List.all_eq_true.1 (by decide)⟩
  have hfile : ¬ Scoped "*:A:/B.h".toList := beforeLastScope?_eq_none_iff.1 (by decide)
  let o : Occurrence := ⟨"*:A:/B.h", "S", "Id", by decide, howner, hname⟩
  obtain ⟨hforms, hunused⟩ := key_form_inferred_as_written o hfile
  let u : UnusedKey := { key := "*:A:/B.h:S::Id", form := .fileStructProperty }
  have hu : a.unused = [u] := by decide
  have hkey : u.key = o.key .fileStructProperty := rfl
  refine ⟨o, rfl, hfile, hforms, u, hu, hkey, ?_⟩
  exact hunused a u (hu ▸ List.mem_cons_self) .fileStructProperty hkey

-- A scope in the path does mislead.
example : KeyForm.ofKey (KeyForm.file.key "A::B.h" "S" "Id") = .structProperty := by decide

end GuidAudit
