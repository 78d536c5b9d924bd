import GuidAudit.Text.Basic

namespace GuidAudit

variable {s t : List Char}

theorem getLast?_ne_of_cons {x c : Char} (h : (x :: s).getLast? ≠ some c) :
    s.getLast? ≠ some c := by
  intro hs
  apply h
  rw [List.getLast?_cons, hs]
  rfl

/-- A line feed behind a text ends its last line, unless a carriage return would join it. -/
theorem lines_append (h : s.getLast? ≠ some '\r') :
    lines (s ++ '\n' :: t) = lines s ++ lines t := by
  fun_induction lines s with
  | case1 => simp [lines]
  | case2 s ih =>
    simp only [List.cons_append, lines]
    rw [ih (getLast?_ne_of_cons (getLast?_ne_of_cons h))]
  | case3 s ih =>
    simp only [List.cons_append, lines]
    rw [ih (getLast?_ne_of_cons h)]
  | case4 c s hcr hlf ih =>
    -- The appended line feed must not turn a last carriage return into part of a line end.
    have hjoin : ∀ rest, c = '\r' → s ++ '\n' :: t = '\n' :: rest → False := by
      intro rest hc he
      cases s with
      | nil => exact h (by rw [hc]; rfl)
      | cons x s =>
        obtain rfl := (List.cons.inj he).1
        exact hcr s hc rfl
    rw [List.cons_append, lines, ih (getLast?_ne_of_cons h)]
    · cases hs : lines s with
      | nil => exact absurd hs (lines_ne_nil s)
      | cons line rest => rfl
    · exact hjoin
    · exact hlf

theorem lines_of_unbroken (h : '\n' ∉ s) : lines s = [s] := by
  fun_induction lines s with
  | case1 => rfl
  | case2 s => exact absurd (List.mem_cons_of_mem _ List.mem_cons_self) h
  | case3 s => exact absurd List.mem_cons_self h
  | case4 c s _ _ ih =>
    rw [ih fun hs => h (List.mem_cons_of_mem c hs)]
    rfl

theorem lineFeed_not_mem_of_mem_lines {line : Line} (h : line ∈ lines s) : '\n' ∉ line := by
  fun_induction lines s generalizing line with
  | case1 =>
    rw [List.mem_singleton.1 h]
    exact List.not_mem_nil
  | case2 s ih =>
    rcases List.mem_cons.1 h with rfl | h
    · exact List.not_mem_nil
    · exact ih h
  | case3 s ih =>
    rcases List.mem_cons.1 h with rfl | h
    · exact List.not_mem_nil
    · exact ih h
  | case4 c s _ hlf ih =>
    cases hs : lines s with
    | nil => exact absurd hs (lines_ne_nil s)
    | cons first rest =>
      rw [hs] at h ih
      rcases List.mem_cons.1 h with rfl | h
      · exact List.not_mem_cons_of_ne_of_not_mem (Ne.symm hlf) (ih List.mem_cons_self)
      · exact ih (List.mem_cons_of_mem first h)

theorem lines_append_returnLineFeed (h : '\n' ∉ s) :
    lines (s ++ '\r' :: '\n' :: t) = s :: lines t := by
  induction s with
  | nil => simp [lines]
  | cons c s ih =>
    have hc : c ≠ '\n' := fun he => h (he ▸ List.mem_cons_self)
    have hs : '\n' ∉ s := fun hs => h (List.mem_cons_of_mem c hs)
    -- A carriage return in the line is followed by the line or by the other carriage return.
    have hjoin : ∀ rest, c = '\r' → s ++ '\r' :: '\n' :: t = '\n' :: rest → False := by
      intro rest _ he
      cases s with
      | nil => exact absurd (List.cons.inj he).1 (by decide)
      | cons d s => exact hs ((List.cons.inj he).1 ▸ List.mem_cons_self)
    rw [List.cons_append, lines, ih hs]
    · rfl
    · exact hjoin
    · exact hc

/-- No part of a line end stands in a text. -/
def Unbroken (text : String) : Prop := ∀ c ∈ text.toList, c ≠ '\n' ∧ c ≠ '\r'

instance (text : String) : Decidable (Unbroken text) :=
  List.decidableBAll _ text.toList

theorem Unbroken.append {text text' : String} (h : Unbroken text) (h' : Unbroken text') :
    Unbroken (text ++ text') := by
  intro c hc
  rw [String.toList_append] at hc
  rcases List.mem_append.1 hc with hc | hc
  · exact h c hc
  · exact h' c hc

/-- Where texts are joined by line feeds, each that is unbroken is a line, unless it is the last and
more follows. -/
theorem lines_intercalate_append {front rest : List String} (tail : List Char)
    (h : ∀ text ∈ front, Unbroken text) (hrest : rest ≠ []) :
    lines (("\n".intercalate (front ++ rest)).toList ++ tail) =
      front.map String.toList ++ lines (("\n".intercalate rest).toList ++ tail) := by
  induction front with
  | nil => rfl
  | cons text front ih =>
    have htext := h text List.mem_cons_self
    have hline : '\n' ∉ text.toList := fun hc => (htext _ hc).1 rfl
    have hreturn : text.toList.getLast? ≠ some '\r' := by
      intro hlast
      exact (htext _ (List.mem_of_getLast? hlast)).2 rfl
    have hne : front ++ rest ≠ [] := by simp [hrest]
    have hlf : "\n".toList = ['\n'] := rfl
    rw [List.cons_append, String.intercalate_cons_of_ne_nil hne, String.toList_append,
      String.toList_append, List.append_assoc, List.append_assoc, hlf, List.singleton_append,
      lines_append hreturn, lines_of_unbroken hline,
      ih fun t ht => h t (List.mem_cons_of_mem text ht)]
    rfl

end GuidAudit
