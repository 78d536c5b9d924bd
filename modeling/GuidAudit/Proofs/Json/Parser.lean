import GuidAudit.Json.Parser
import GuidAudit.Proofs.Json.Token

namespace GuidAudit.Json

variable {s r g x : List Char} {t : Token} {v : Value} {p p' : Progress} {stack : List Frame}
variable {members : List (UnitText × Value)} {name : UnitText}

namespace Progress

/-- Goes on through a whole text. -/
def advance? (p : Progress) (s : List Char) : Option Progress := (tokens? s).bind p.run?

theorem advance?_nil (p : Progress) : p.advance? [] = some p := by
  rw [advance?, tokens?]
  rfl

theorem advance?_gap (p : Progress) (h : Gap g) (s : List Char) :
    p.advance? (g ++ s) = p.advance? s := by
  rw [advance?, tokens?_gap h, advance?]

theorem advance?_of_token? (p : Progress) (h : token? s = some (t, r)) :
    p.advance? s = (p.step? t).bind (·.advance? r) := by
  rw [advance?, tokens?_of_token? h]
  simp only [advance?]
  cases tokens? r with
  | none => cases p.step? t <;> rfl
  | some ts => rfl

theorem advance?_step (h : token? s = some (t, r)) (hp : p.step? t = some p') :
    p.advance? s = p'.advance? r := by
  rw [p.advance?_of_token? h, hp]
  rfl

end Progress

theorem Value.ofText?_eq (text : String) :
    Value.ofText? text = ((Progress.item []).advance? text.toList).bind Progress.result? := by
  rw [ofText?, Progress.advance?, Option.bind_assoc]
  rfl

/-- A value may come next, and its end will be seen on the stack. -/
def Progress.Awaits (p : Progress) (stack : List Frame) : Prop :=
  ∀ t, t ≠ .closeArray → p.step? t = begin? stack t

theorem Progress.awaits_item (stack : List Frame) : (item stack).Awaits stack := fun _ _ => rfl

theorem Progress.awaits_firstItem (stack : List Frame) :
    (firstItem stack).Awaits (.array [] :: stack) := by
  intro t ht
  cases t with
  | closeArray => exact absurd rfl ht
  | _ => rfl

def Progress.AwaitsName (p : Progress) (members : List (UnitText × Value)) (stack : List Frame) :
    Prop :=
  ∀ name, p.step? (.string name) = some (.colon members name stack)

/-- What reading a phrase leads to, whatever follows it. -/
def Phrase.Leads (s : List Char) : Phrase → Prop
  | .value v | .item v => ∀ p stack r, Progress.Awaits p stack → Ends r →
      p.advance? (s ++ r) = (Progress.complete v stack).advance? r
  | .items vs => ∀ p stack r, Progress.Awaits p (.array [] :: stack) → Ends r →
      ∃ init last, vs = init ++ [last] ∧
        p.advance? (s ++ r) = (Progress.complete last (.array init.reverse :: stack)).advance? r
  | .member name v => ∀ p members stack r, Progress.AwaitsName p members stack → Ends r →
      p.advance? (s ++ r) = (Progress.complete v (.object members name :: stack)).advance? r
  | .members ms => ∀ p stack r, Progress.AwaitsName p [] stack → Ends r →
      ∃ init name v, ms = init ++ [(name, v)] ∧
        p.advance? (s ++ r) = (Progress.complete v (.object init.reverse name :: stack)).advance? r

theorem Ends.nil : Ends [] := by
  intro c hc
  cases hc

theorem Ends.cons (c : Char) (hd : c.isDigit = false) (hc : c ≠ '.' ∧ c ≠ 'e' ∧ c ≠ 'E')
    (r : List Char) : Ends (c :: r) := by
  intro d hd'
  obtain rfl := Option.some.inj hd'
  exact ⟨hd, hc⟩

theorem Gap.ends_append (h : Gap g) (hr : Ends r) : Ends (g ++ r) := by
  cases g with
  | nil => exact hr
  | cons c g =>
    rcases h c List.mem_cons_self with rfl | rfl | rfl | rfl
    all_goals exact .cons _ rfl (by decide) _

/-- A value that is a single token. -/
theorem Phrase.leads_of_token (t : Token) (ht : t ≠ .closeArray)
    (hs : ∀ r, Ends r → token? (s ++ r) = some (t, r))
    (hb : ∀ stack, Progress.begin? stack t = some (.complete v stack)) :
    Phrase.Leads s (.value v) := by
  intro p stack r hp hr
  exact Progress.advance?_step (hs r hr) ((hp t ht).trans (hb stack))

theorem Written.leads {phrase : Phrase} (h : Written s phrase) : phrase.Leads s := by
  -- What follows a phrase is arbitrary in the hypotheses, since each case puts its own mark there.
  induction h with
  | null => exact Phrase.leads_of_token .null nofun (fun _ _ => rfl) (fun _ => rfl)
  | boolTrue => exact Phrase.leads_of_token (.bool true) nofun (fun _ _ => rfl) (fun _ => rfl)
  | boolFalse => exact Phrase.leads_of_token (.bool false) nofun (fun _ _ => rfl) (fun _ => rfl)
  | number h =>
    exact Phrase.leads_of_token (.number _ _) nofun (fun _ => token?_number h) (fun _ => rfl)
  | string h =>
    exact Phrase.leads_of_token (.string _) nofun (fun r _ => token?_string h r) (fun _ => rfl)
  | emptyArray hg =>
    intro p stack r hp _
    rw [List.cons_append, List.append_assoc, Progress.advance?_step rfl (hp .openArray nofun),
      Progress.advance?_gap _ hg]
    exact Progress.advance?_step rfl rfl
  | array _ ih =>
    intro p stack r hp _
    obtain ⟨init, last, rfl, h⟩ := ih _ stack (']' :: r) (Progress.awaits_firstItem stack)
      (.cons ']' rfl (by decide) r)
    rw [List.cons_append, List.append_assoc, Progress.advance?_step rfl (hp .openArray nofun)]
    refine h.trans ((Progress.advance?_step rfl rfl).trans ?_)
    rw [List.reverse_cons, List.reverse_reverse]
  | emptyObject hg =>
    intro p stack r hp _
    rw [List.cons_append, List.append_assoc, Progress.advance?_step rfl (hp .openObject nofun),
      Progress.advance?_gap _ hg]
    exact Progress.advance?_step rfl rfl
  | object _ ih =>
    intro p stack r hp _
    obtain ⟨init, name, v, rfl, h⟩ := ih (.firstName stack) stack ('}' :: r) (fun _ => rfl)
      (.cons '}' rfl (by decide) r)
    rw [List.cons_append, List.append_assoc, Progress.advance?_step rfl (hp .openObject nofun)]
    refine h.trans ((Progress.advance?_step rfl rfl).trans ?_)
    rw [List.reverse_cons, List.reverse_reverse]
  | item hg _ hg' ih =>
    intro p stack r hp hr
    rw [List.append_assoc, List.append_assoc, p.advance?_gap hg,
      ih p stack _ hp (hg'.ends_append hr), Progress.advance?_gap _ hg']
  | oneItem _ ih =>
    intro p stack r hp hr
    exact ⟨[], _, rfl, ih p _ r hp hr⟩
  | moreItems _ _ iht ihs =>
    intro p stack r hp hr
    obtain ⟨init, last, rfl, h⟩ := iht p stack _ hp (.cons ',' rfl (by decide) _)
    refine ⟨init ++ [last], _, rfl, ?_⟩
    rw [List.append_assoc, List.cons_append, h, Progress.advance?_step rfl rfl, List.reverse_append]
    exact ihs _ _ r (Progress.awaits_item _) hr
  | member hg hn hg' _ ih =>
    intro p members stack r hp hr
    simp only [List.append_assoc, List.cons_append]
    rw [p.advance?_gap hg, Progress.advance?_step (token?_string hn _) (hp _),
      Progress.advance?_gap _ hg', Progress.advance?_step rfl rfl]
    exact ih _ _ r (Progress.awaits_item _) hr
  | oneMember _ ih =>
    intro p stack r hp hr
    exact ⟨[], _, _, rfl, ih p [] stack r hp hr⟩
  | moreMembers _ _ iht ihs =>
    intro p stack r hp hr
    obtain ⟨init, name, v, rfl, h⟩ := iht p stack _ hp (.cons ',' rfl (by decide) _)
    refine ⟨init ++ [(name, v)], _, _, rfl, ?_⟩
    rw [List.append_assoc, List.cons_append, h, Progress.advance?_step rfl rfl, List.reverse_append]
    exact ihs (.name _ _) _ _ r (fun _ => rfl) hr

/-- The inside of a container as far as it has been read: no entry, or some with a comma behind
them. They are given with the last one first. -/
def Begun {α : Type} (inside : List α → Phrase) (s : List Char) (entries : List α) : Prop :=
  Gap s ∧ entries = [] ∨
    ∃ t g, Written t (inside entries.reverse) ∧ Gap g ∧ s = t ++ ',' :: g

/-- A text that breaks off where a value must follow, inside of the given containers. -/
inductive Opened : List Char → List Frame → Prop
  | top {g : List Char} : Gap g → Opened g []
  | array {s t : List Char} {items : List Value} {stack : List Frame} : Opened s stack →
      Begun .items t items → Opened (s ++ '[' :: t) (.array items :: stack)
  | object {s t n g g' : List Char} {members : List (UnitText × Value)} {name : UnitText}
      {stack : List Frame} : Opened s stack → Begun .members t members → IsString n name →
      Gap g → Gap g' →
      Opened (s ++ '{' :: (t ++ (n ++ (g ++ ':' :: g')))) (.object members name :: stack)

/-- A text that leads to the given progress. -/
inductive Reached : List Char → Progress → Prop
  | item {s : List Char} {stack : List Frame} : Opened s stack → Reached s (.item stack)
  | firstItem {s g : List Char} {stack : List Frame} : Opened s stack → Gap g →
      Reached (s ++ '[' :: g) (.firstItem stack)
  | firstName {s g : List Char} {stack : List Frame} : Opened s stack → Gap g →
      Reached (s ++ '{' :: g) (.firstName stack)
  | name {s t : List Char} {members : List (UnitText × Value)} {stack : List Frame} :
      Opened s stack → Begun .members t members → Reached (s ++ '{' :: t) (.name members stack)
  | colon {s t n g : List Char} {members : List (UnitText × Value)} {name : UnitText}
      {stack : List Frame} : Opened s stack → Begun .members t members → IsString n name → Gap g →
      Reached (s ++ '{' :: (t ++ (n ++ g))) (.colon members name stack)
  | complete {s x g : List Char} {v : Value} {stack : List Frame} : Opened s stack →
      Written x (.value v) → Gap g → Reached (s ++ (x ++ g)) (.complete v stack)

theorem Begun.gap {α : Type} {inside : List α → Phrase} {entries : List α}
    (h : Begun inside s entries) (hg : Gap g) : Begun inside (s ++ g) entries := by
  rcases h with ⟨hs, rfl⟩ | ⟨t, g', ht, hg', rfl⟩
  · exact .inl ⟨hs.append hg, rfl⟩
  · exact .inr ⟨t, g' ++ g, ht, hg'.append hg, by simp⟩

theorem Begun.add_item {items : List Value} (h : Begun .items s items) (hx : Written x (.value v))
    (hg : Gap g) : Written (s ++ (x ++ g)) (.items (v :: items).reverse) := by
  rcases h with ⟨hs, rfl⟩ | ⟨t, g', ht, hg', rfl⟩
  · exact .oneItem (.item hs hx hg)
  · rw [List.reverse_cons, List.append_assoc, List.cons_append]
    exact .moreItems ht (.item hg' hx hg)

theorem Begun.add_member {n g' g'' : List Char} (h : Begun .members s members)
    (hn : IsString n name) (hg : Gap g) (hg' : Gap g') (hx : Written x (.value v))
    (hg'' : Gap g'') :
    Written (s ++ (n ++ (g ++ ':' :: (g' ++ (x ++ g'')))))
      (.members ((name, v) :: members).reverse) := by
  rcases h with ⟨hs, rfl⟩ | ⟨t, g₀, ht, hg₀, rfl⟩
  · exact .oneMember (.member hs hn hg (.item hg' hx hg''))
  · rw [List.reverse_cons, List.append_assoc, List.cons_append]
    exact .moreMembers ht (.member hg₀ hn hg (.item hg' hx hg''))

theorem Opened.gap (h : Opened s stack) (hg : Gap g) : Opened (s ++ g) stack := by
  cases h with
  | top h => exact .top (h.append hg)
  | array hs ht =>
    rw [List.append_assoc]
    exact .array hs (ht.gap hg)
  | object hs ht hn hg₁ hg₂ =>
    simpa using Opened.object hs ht hn hg₁ (hg₂.append hg)

theorem Reached.gap (h : Reached s p) (hg : Gap g) : Reached (s ++ g) p := by
  cases h with
  | item hs => exact .item (hs.gap hg)
  | firstItem hs hg' => simpa using Reached.firstItem hs (hg'.append hg)
  | firstName hs hg' => simpa using Reached.firstName hs (hg'.append hg)
  | name hs ht => simpa using Reached.name hs (ht.gap hg)
  | colon hs ht hn hg' => simpa using Reached.colon hs ht hn (hg'.append hg)
  | complete hs hx hg' => simpa using Reached.complete hs hx (hg'.append hg)

/-- A token that completes a value at once. -/
theorem Opened.complete (h : Opened s stack) (hx : Written x (.value v)) :
    Reached (s ++ x) (.complete v stack) := by
  simpa using Reached.complete h hx .nil

theorem Opened.begin_value (h : Opened s stack) (hx : Spelled x t)
    (hp : Progress.begin? stack t = some p) : Reached (s ++ x) p := by
  cases hx with
  | openArray => cases hp; exact .firstItem h .nil
  | openObject => cases hp; exact .firstName h .nil
  | null => cases hp; exact h.complete .null
  | boolTrue => cases hp; exact h.complete .boolTrue
  | boolFalse => cases hp; exact h.complete .boolFalse
  | number hx => cases hp; exact h.complete (.number hx)
  | string hx => cases hp; exact h.complete (.string hx)
  | _ => cases hp

/-- One more token. -/
theorem Reached.step (h : Reached s p) (hx : Spelled x t) (hp : p.step? t = some p') :
    Reached (s ++ x) p' := by
  cases h with
  | item hs => exact hs.begin_value hx hp
  | firstItem hs hg =>
    by_cases ht : t = .closeArray
    · subst ht
      cases hx
      cases hp
      simpa using hs.complete (.emptyArray hg)
    · rw [Progress.awaits_firstItem _ t ht] at hp
      exact (Opened.array hs (.inl ⟨hg, rfl⟩)).begin_value hx hp
  | firstName hs hg =>
    cases hx with
    | closeObject =>
      cases hp
      simpa using hs.complete (.emptyObject hg)
    | string hx =>
      cases hp
      simpa using Reached.colon hs (.inl ⟨hg, rfl⟩) hx .nil
    | _ => cases hp
  | name hs ht =>
    cases hx with
    | string hx =>
      cases hp
      simpa using Reached.colon hs ht hx .nil
    | _ => cases hp
  | colon hs ht hn hg =>
    cases hx with
    | colon =>
      cases hp
      simpa using Reached.item (.object hs ht hn hg .nil)
    | _ => cases hp
  | complete hs hv hg =>
    cases hs with
    | top => cases hx <;> cases hp
    | array hs ht =>
      cases hx with
      | comma =>
        cases hp
        simpa using Reached.item (.array hs (.inr ⟨_, [], ht.add_item hv hg, .nil, rfl⟩))
      | closeArray =>
        cases hp
        simpa using hs.complete (.array (ht.add_item hv hg))
      | _ => cases hp
    | object hs ht hn hg₁ hg₂ =>
      cases hx with
      | comma =>
        cases hp
        have hm := ht.add_member hn hg₁ hg₂ hv hg
        simpa using Reached.name hs (.inr ⟨_, [], hm, .nil, rfl⟩)
      | closeObject =>
        cases hp
        simpa using hs.complete (.object (ht.add_member hn hg₁ hg₂ hv hg))
      | _ => cases hp

/-- A whole text, from whatever has been read before it. -/
theorem Reached.advance {r : List Char} (h : Reached s p) (hp : p.advance? r = some p') :
    Reached (s ++ r) p' := by
  -- Along the tokens of the rest, while what is taken off it joins the text already read.
  fun_induction tokens? r generalizing s p with
  | case1 =>
    rw [p.advance?_nil] at hp
    cases hp
    simpa using h
  | case2 c r hc ih =>
    have hg := Gap.singleton hc
    rw [← List.singleton_append] at hp ⊢
    rw [p.advance?_gap hg] at hp
    rw [← List.append_assoc]
    exact ih (h.gap hg) hp
  | case3 c r hc ht =>
    rw [Progress.advance?, tokens?, if_neg hc] at hp
    split at hp
    · cases hp
    · rename_i he
      rw [ht] at he
      cases he
  | case4 c r hc t rest ht hlt ih =>
    rw [p.advance?_of_token? ht] at hp
    obtain ⟨q, hq, hp⟩ := Option.bind_eq_some_iff.1 hp
    obtain ⟨x, hx, hs⟩ := token?_sound ht
    rw [hx, ← List.append_assoc]
    exact ih (h.step hs hq) hp

theorem Progress.eq_complete_of_result? (h : p.result? = some v) : p = .complete v [] := by
  unfold result? at h
  split at h
  · cases h
    rfl
  · cases h

theorem Reached.written (h : Reached s (.complete v [])) : Written s (.item v) := by
  cases h with
  | complete hs hx hg =>
    cases hs with
    | top hg₀ => exact .item hg₀ hx hg

theorem Value.ofText?_eq_some_iff {text : String} :
    Value.ofText? text = some v ↔ Denotes text v := by
  rw [ofText?_eq]
  constructor
  · intro h
    obtain ⟨p, hp, hv⟩ := Option.bind_eq_some_iff.1 h
    rw [Progress.eq_complete_of_result? hv] at hp
    exact ((Reached.item (.top .nil)).advance hp).written
  · intro h
    have hp := h.leads (.item []) [] [] (Progress.awaits_item []) .nil
    rw [List.append_nil, Progress.advance?_nil] at hp
    rw [hp]
    rfl

end GuidAudit.Json
