import Mathlib.Data.List.Basic
import GuidAudit.Disk.Path

namespace GuidAudit

variable {s t : List Char} {isCut : Char → Bool} {c : Char} {names : Location}

theorem cutAt_ne_nil (isCut : Char → Bool) (s : List Char) : cutAt isCut s ≠ [] := by
  induction s with
  | nil => exact List.cons_ne_nil _ _
  | cons c s ih =>
    rw [cutAt]
    split
    · exact List.cons_ne_nil _ _
    · cases h : cutAt isCut s with
      | nil => exact absurd h ih
      | cons => exact List.cons_ne_nil _ _

theorem cutAt_append (hc : isCut c = true) (s t : List Char) :
    cutAt isCut (s ++ c :: t) = cutAt isCut s ++ cutAt isCut t := by
  induction s with
  | nil => simp [cutAt, hc]
  | cons d s ih =>
    rw [List.cons_append, cutAt, cutAt, ih]
    split
    · rfl
    · cases h : cutAt isCut s with
      | nil => exact absurd h (cutAt_ne_nil isCut s)
      | cons => rfl

theorem cutAt_of_uncut (h : ∀ c ∈ s, isCut c = false) : cutAt isCut s = [s] := by
  induction s with
  | nil => rfl
  | cons c s ih =>
    obtain ⟨hc, hs⟩ := List.forall_mem_cons.1 h
    rw [cutAt, hc, ih hs]
    rfl

/-- A text is cut where its pieces were joined. -/
theorem cutAt_intercalate {pieces : List (List Char)} (hne : pieces ≠ []) (hc : isCut c = true)
    (h : ∀ piece ∈ pieces, ∀ d ∈ piece, isCut d = false) :
    cutAt isCut ([c].intercalate pieces) = pieces := by
  induction pieces with
  | nil => exact absurd rfl hne
  | cons piece pieces ih =>
    obtain ⟨hpiece, hpieces⟩ := List.forall_mem_cons.1 h
    cases pieces with
    | nil =>
      rw [List.intercalate_singleton]
      exact cutAt_of_uncut hpiece
    | cons next pieces =>
      rw [List.intercalate_cons_cons, List.append_assoc, List.singleton_append, cutAt_append hc,
        cutAt_of_uncut hpiece, ih (List.cons_ne_nil _ _) hpieces]
      rfl

theorem Name.slash_not_mem (n : Name) : '/' ∉ n.text.toList := by
  have h := n.valid
  simp only [isName, Bool.and_eq_true, Bool.not_eq_true', List.contains_eq_mem,
    decide_eq_false_iff_not] at h
  exact h.2

theorem Name.ne_dots (n : Name) :
    n.text.toList ≠ [] ∧ n.text.toList ≠ ['.'] ∧ n.text.toList ≠ ['.', '.'] := by
  have h := n.valid
  simp only [isName, Bool.and_eq_true, decide_eq_true_eq] at h
  exact ⟨h.1.1.1, h.1.1.2, h.1.2⟩

theorem resolvePiece_name (absolute : Bool) (stack : List (List Char)) (n : Name) :
    resolvePiece absolute stack n.text.toList = n.text.toList :: stack := by
  obtain ⟨hnil, hdot, hdots⟩ := n.ne_dots
  simp [resolvePiece, hnil, hdot, hdots]

theorem slash_not_mem_of_mem_cutAt {piece : List Char} (h : piece ∈ cutAt (· == '/') s) :
    '/' ∉ piece := by
  induction s generalizing piece with
  | nil =>
    rw [List.mem_singleton.1 h]
    exact List.not_mem_nil
  | cons c s ih =>
    rw [cutAt] at h
    split at h
    · rcases List.mem_cons.1 h with rfl | h
      · exact List.not_mem_nil
      · exact ih h
    · rename_i hc
      cases hs : cutAt (· == '/') s with
      | nil => exact absurd hs (cutAt_ne_nil _ s)
      | cons first rest =>
        rw [hs] at h ih
        rcases List.mem_cons.1 h with rfl | h
        · intro hm
          rcases List.mem_cons.1 hm with rfl | hm
          · exact hc rfl
          · exact ih List.mem_cons_self hm
        · exact ih (List.mem_cons_of_mem first h)

theorem slash_not_mem_resolvePiece {absolute : Bool} {stack : List (List Char)}
    {piece : List Char} (hstack : ∀ p ∈ stack, '/' ∉ p) (hpiece : '/' ∉ piece) :
    ∀ p ∈ resolvePiece absolute stack piece, '/' ∉ p := by
  intro p hp
  unfold resolvePiece at hp
  split at hp
  · exact hstack p hp
  split at hp
  · split at hp
    · split at hp
      · cases hp
      · exact List.mem_singleton.1 hp ▸ hpiece
    · split at hp
      · rcases List.mem_cons.1 hp with rfl | hp
        · exact hpiece
        · exact hstack p hp
      · exact hstack p (List.mem_cons_of_mem _ hp)
  · rcases List.mem_cons.1 hp with rfl | hp
    · exact hpiece
    · exact hstack p hp

theorem slash_not_mem_foldl_resolvePiece {absolute : Bool} {pieces stack : List (List Char)}
    (hstack : ∀ p ∈ stack, '/' ∉ p) (hpieces : ∀ p ∈ pieces, '/' ∉ p) :
    ∀ p ∈ pieces.foldl (resolvePiece absolute) stack, '/' ∉ p := by
  induction pieces generalizing stack with
  | nil => exact hstack
  | cons piece pieces ih =>
    obtain ⟨hpiece, hpieces⟩ := List.forall_mem_cons.1 hpieces
    exact ih (slash_not_mem_resolvePiece hstack hpiece) hpieces

theorem slash_not_mem_resolvedPieces {piece : List Char} (h : piece ∈ resolvedPieces s) :
    '/' ∉ piece :=
  slash_not_mem_foldl_resolvePiece (fun _ hp => absurd hp List.not_mem_nil)
    (fun _ => slash_not_mem_of_mem_cutAt) piece h

theorem suffix_intercalate_concat (separator piece : List Char) (pieces : List (List Char)) :
    piece <:+ separator.intercalate (pieces ++ [piece]) := by
  induction pieces with
  | nil => simp
  | cons first pieces ih =>
    obtain ⟨next, rest, hrest⟩ : ∃ next rest, pieces ++ [piece] = next :: rest :=
      List.exists_cons_of_ne_nil (by simp)
    rw [List.cons_append, hrest, List.intercalate_cons_cons, ← hrest]
    exact ih.trans (List.suffix_append _ _)

section Relative

variable (hne : names ≠ [])

theorem toList_joinWith (names : Location) : (joinWith "/" names).toList =
    ['/'].intercalate (names.reverse.map (·.text.toList)) := by
  rw [joinWith, String.toList_intercalate, List.map_map]
  rfl

include hne

theorem cutAt_joinWith : cutAt (· == '/') (joinWith "/" names).toList =
    names.reverse.map (·.text.toList) := by
  rw [toList_joinWith]
  apply cutAt_intercalate
  · simpa using hne
  · rfl
  · intro piece hpiece d hd
    obtain ⟨n, _, rfl⟩ := List.mem_map.1 hpiece
    apply beq_eq_false_iff_ne.2
    rintro rfl
    exact n.slash_not_mem hd

theorem head?_joinWith : ((joinWith "/" names).toList.head? == some '/') = false := by
  obtain ⟨n, rest, hrest⟩ := List.exists_cons_of_ne_nil (List.reverse_ne_nil_iff.2 hne)
  obtain ⟨t, ht⟩ : ∃ t, (joinWith "/" names).toList = n.text.toList ++ t := by
    rw [toList_joinWith, hrest, List.map_cons]
    cases rest.map (·.text.toList) with
    | nil => exact ⟨[], by simp⟩
    | cons next rest => exact ⟨_, by rw [List.intercalate_cons_cons, List.append_assoc]⟩
  obtain ⟨c, s, hs⟩ := List.exists_cons_of_ne_nil n.ne_dots.1
  have hslash := n.slash_not_mem
  rw [hs] at hslash
  rw [ht, hs]
  apply beq_eq_false_iff_ne.2
  intro h
  exact hslash (Option.some.inj h ▸ List.mem_cons_self)

theorem getLast?_joinWith : ((joinWith "/" names).toList.getLast? == some '/') = false := by
  obtain ⟨n, between, rfl⟩ := List.exists_cons_of_ne_nil hne
  have hsuffix : n.text.toList <:+ (joinWith "/" (n :: between)).toList := by
    rw [toList_joinWith, List.reverse_cons, List.map_append]
    exact suffix_intercalate_concat _ _ _
  obtain ⟨front, hfront⟩ := hsuffix
  rw [← hfront, List.getLast?_append_of_ne_nil _ n.ne_dots.1]
  apply beq_eq_false_iff_ne.2
  intro h
  exact n.slash_not_mem (List.mem_of_getLast? h)

theorem joinWith_ne_nil : (joinWith "/" names).toList ≠ [] := by
  intro h
  have hcut := cutAt_joinWith hne
  rw [h, cutAt] at hcut
  obtain ⟨n, _, hn⟩ := List.mem_map.1 (hcut ▸ List.mem_singleton_self ([] : List Char))
  exact n.ne_dots.1 hn

end Relative

theorem foldl_resolvePiece_names (absolute : Bool) (stack : List (List Char)) (names : Location) :
    (names.reverse.map (·.text.toList)).foldl (resolvePiece absolute) stack =
      names.map (·.text.toList) ++ stack := by
  induction names with
  | nil => rfl
  | cons n names ih =>
    rw [List.reverse_cons, List.map_append, List.foldl_append, ih]
    exact resolvePiece_name absolute _ n

/-- The names go on top of the pieces of the root, and the text begins and ends as it should. -/
theorem slashed_joinWith (hne : names ≠ []) (root : List Char) :
    let joined := slashed root (joinWith "/" names).toList
    (joined.head? == some '/') = (root.head? == some '/') ∧
    (joined.getLast? == some '/') = false ∧
    resolvedPieces joined = names.map (·.text.toList) ++ resolvedPieces root := by
  have hrelative := joinWith_ne_nil hne
  intro joined
  cases root with
  | nil =>
    have hjoined : joined = (joinWith "/" names).toList := by
      simp [joined, slashed, hrelative]
    rw [hjoined]
    refine ⟨head?_joinWith hne, getLast?_joinWith hne, ?_⟩
    rw [resolvedPieces, cutAt_joinWith hne, foldl_resolvePiece_names]
    rfl
  | cons c root =>
    have hjoined : joined = c :: root ++ '/' :: (joinWith "/" names).toList := by
      simp [joined, slashed, hrelative, List.intercalate_cons_cons]
    rw [hjoined]
    refine ⟨rfl, ?_, ?_⟩
    · rw [List.getLast?_append_of_ne_nil _ (List.cons_ne_nil _ _),
        List.getLast?_cons_of_ne_nil hrelative]
      exact getLast?_joinWith hne
    · rw [resolvedPieces, cutAt_append rfl, List.foldl_append, cutAt_joinWith hne,
        foldl_resolvePiece_names]
      rfl

/-- The pieces of a joined path: those of the root in normal form, and then the names. -/
theorem toList_joinedPath (hne : names ≠ []) (root : String) :
    (joinedPath root (joinWith "/" names)).toList =
      (if root.toList.head? == some '/' then ['/'] else []) ++
        ['/'].intercalate ((resolvedPieces root.toList).reverse ++
          names.reverse.map (·.text.toList)) := by
  obtain ⟨hhead, hlast, hpieces⟩ := slashed_joinWith hne root.toList
  rw [joinedPath, String.toList_ofList]
  simp only [normalPath, hhead, hlast, hpieces]
  split
  · rename_i hnil
    exact absurd (List.map_eq_nil_iff.1 (List.append_eq_nil_iff.1 hnil).1) hne
  · simp

/-- Names hold no slashes, so that a joined path tells which names it goes down by. -/
theorem joinedPath_injective {names' : Location} {root : String} (hne : names ≠ [])
    (hne' : names' ≠ [])
    (h : joinedPath root (joinWith "/" names) = joinedPath root (joinWith "/" names')) :
    names = names' := by
  have hslash (names : Location) : ∀ piece ∈ (resolvedPieces root.toList).reverse ++
      names.reverse.map (·.text.toList), ∀ c ∈ piece, (c == '/') = false := by
    intro piece hpiece c hc
    apply beq_eq_false_iff_ne.2
    rintro rfl
    rcases List.mem_append.1 hpiece with hpiece | hpiece
    · exact slash_not_mem_resolvedPieces (List.mem_reverse.1 hpiece) hc
    · obtain ⟨n, _, rfl⟩ := List.mem_map.1 hpiece
      exact n.slash_not_mem hc
  have hpieces {names : Location} (hne : names ≠ []) :
      (resolvedPieces root.toList).reverse ++ names.reverse.map (·.text.toList) ≠ [] := by
    simp [hne]
  have hchars := congrArg String.toList h
  rw [toList_joinedPath hne, toList_joinedPath hne'] at hchars
  have hcut := congrArg (cutAt (· == '/')) (List.append_cancel_left hchars)
  rw [cutAt_intercalate (hpieces hne) rfl (hslash names),
    cutAt_intercalate (hpieces hne') rfl (hslash names')] at hcut
  have htext : Function.Injective fun n : Name => n.text.toList := by
    intro n n' hn
    cases n
    cases n'
    obtain rfl := String.toList_inj.1 hn
    rfl
  exact List.reverse_injective (List.map_injective_iff.2 htext (List.append_cancel_left hcut))

/-- The path of a header ends in the header's name. -/
theorem suffix_joinedPath (root : String) (n : Name) (between : Location) :
    n.text.toList <:+ (joinedPath root (joinWith "/" (n :: between))).toList := by
  have hpieces : (resolvedPieces root.toList).reverse ++
      (n :: between).reverse.map (·.text.toList) = ((resolvedPieces root.toList).reverse ++
        between.reverse.map (·.text.toList)) ++ [n.text.toList] := by simp
  rw [toList_joinedPath (List.cons_ne_nil n between), hpieces]
  exact (suffix_intercalate_concat _ _ _).trans (List.suffix_append _ _)

example : joinedPath "./x/../..//A/" "B/C.h" = "../A/B/C.h" := by decide

end GuidAudit
