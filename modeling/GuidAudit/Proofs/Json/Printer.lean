import GuidAudit.Json.Value
import GuidAudit.Proofs.Json.Parser

namespace GuidAudit.Json

variable {c : Char} {s : List Char} {u : List UInt16}

theorem hexValue?_digitChar {n : Nat} (h : n < 16) : hexValue? (Nat.digitChar n) = some n := by
  have hall : ∀ n < 16, hexValue? (Nat.digitChar n) = some n := by decide
  exact hall n h

theorem hexUnit?_digitChar {n : Nat} (h : n < 0x10000) :
    hexUnit? (Nat.digitChar (n / 4096)) (Nat.digitChar (n / 256 % 16))
      (Nat.digitChar (n / 16 % 16)) (Nat.digitChar (n % 16)) = some n := by
  have hn : ((n / 4096 * 16 + n / 256 % 16) * 16 + n / 16 % 16) * 16 + n % 16 = n := by omega
  simp only [hexUnit?, hexValue?_digitChar (show n / 4096 < 16 by omega),
    hexValue?_digitChar (Nat.mod_lt _ (show 0 < 16 by decide)), Option.bind_eq_bind,
    Option.bind_some, hn]

theorem IsBody.escapeUnit_append (h : IsBody s u) {n : Nat} (hn : n < 0x10000) :
    IsBody (escapeUnit n ++ s) (.ofNat n :: u) :=
  .unit (hexUnit?_digitChar hn) h

theorem toNat_lt_of_lt_blank (h : c < ' ') : c.toNat < 32 := h

theorem IsBody.escapeChar_append (h : IsBody s u) (c : Char) :
    IsBody (escapeChar c ++ s) (charUnits c ++ u) := by
  unfold escapeChar
  split
  -- The characters without a letter of their own: control characters, and those left as they are.
  case h_8 =>
    rename_i hquote hslash _ _ _ _ _
    split
    · rename_i hc
      have hn : c.toNat < 0x10000 := Nat.lt_trans (toNat_lt_of_lt_blank hc) (by decide)
      rw [charUnits_of_lt hn]
      exact h.escapeUnit_append hn
    · rename_i hc
      exact .plain hquote hslash (Char.not_lt.1 hc) h
  all_goals exact .escape (by decide) h

theorem IsBody.escapePiece_append (h : IsBody s u) (p : Piece) :
    IsBody (escapePiece p ++ s) (p.units ++ u) := by
  cases p with
  | char c => exact h.escapeChar_append c
  | lone v =>
    have hv := h.escapeUnit_append v.toNat_lt
    rw [UInt16.ofNat_toNat] at hv
    exact hv

theorem isBody_escape (ps : List Piece) :
    IsBody (ps.flatMap escapePiece) (ps.flatMap Piece.units) := by
  induction ps with
  | nil => exact .nil
  | cons p ps ih => exact ih.escapePiece_append p

theorem isString_quoted (text : UnitText) : IsString (quoted text) text := by
  have h := IsString.mk (isBody_escape (pieces text.units))
  rw [flatMap_units_pieces] at h
  exact h

theorem isDigits_toDigits (n : Nat) : IsDigits (Nat.toDigits 10 n) :=
  ⟨Nat.toDigits_ne_nil, fun _ hc => Nat.isDigit_of_mem_toDigits (by decide) (by decide) hc⟩

theorem head?_toDigits {n : Nat} (h : 0 < n) : (Nat.toDigits 10 n).head? ≠ some '0' := by
  induction n using Nat.strongRecOn with
  | ind n ih =>
    rw [Nat.toDigits_eq_if (by decide)]
    split
    · rename_i hn
      have hall : ∀ n < 10, 0 < n → n.digitChar ≠ '0' := by decide
      simpa using hall n hn h
    · rename_i hn
      have hrest := ih (n / 10) (by omega) (by omega)
      obtain ⟨d, ds, hd⟩ := List.exists_cons_of_ne_nil (Nat.toDigits_ne_nil (n := n / 10) (b := 10))
      rw [hd] at hrest ⊢
      exact hrest

theorem isWhole_toDigits (n : Nat) : IsWhole (Nat.toDigits 10 n) := by
  cases n with
  | zero => exact .inl rfl
  | succ n => exact .inr ⟨isDigits_toDigits _, head?_toDigits (Nat.succ_pos n)⟩

theorem isExponent_decimalChars (e : Int) : IsExponent ('e' :: decimalChars e) e := by
  cases e with
  | ofNat n =>
    have h := IsExponent.unsigned (.inl rfl) (isDigits_toDigits n)
    rw [ofDigits_toDigits] at h
    exact h
  | negSucc n =>
    have h := IsExponent.minus (.inl rfl) (isDigits_toDigits (n + 1))
    rw [ofDigits_toDigits] at h
    exact h

theorem isUnsigned_toDigits {x : List Char} {e : Int} (n : Nat) (h : IsExponent x e) :
    IsUnsigned (Nat.toDigits 10 n ++ x) n e := by
  have hn := IsUnsigned.mk (isWhole_toDigits n) (.inl ⟨rfl, rfl⟩) h
  rw [List.append_nil, ofDigits_toDigits] at hn
  simpa using hn

theorem isNumber_numberChars (c e : Int) : IsNumber (numberChars c e) c e := by
  have hexponent : IsExponent (if e = 0 then [] else 'e' :: decimalChars e) e := by
    split
    · rename_i he
      rw [he]
      exact .absent
    · exact isExponent_decimalChars e
  cases c with
  | ofNat n => exact .positive (isUnsigned_toDigits n hexponent)
  | negSucc n => exact .negative (isUnsigned_toDigits (n + 1) hexponent)

theorem gap_newLine (depth : Nat) : Gap (newLine depth) := by
  intro c hc
  rcases List.mem_cons.1 hc with rfl | hc
  · exact .inr (.inr (.inl rfl))
  · exact .inl (List.eq_of_mem_replicate hc)

theorem gap_blank : Gap [' '] := Gap.singleton rfl

section Padding

variable {g : List Char} {v : Value} {name : UnitText} (hg : Gap g)
include hg

theorem Written.item_append (h : Written s (.item v)) : Written (s ++ g) (.item v) := by
  cases h with
  | item h₁ hs h₂ =>
    rw [List.append_assoc, List.append_assoc]
    exact .item h₁ hs (h₂.append hg)

theorem Written.items_append {vs : List Value} (h : Written s (.items vs)) :
    Written (s ++ g) (.items vs) := by
  cases h with
  | oneItem hs => exact .oneItem (hs.item_append hg)
  | moreItems ht hs =>
    rw [List.append_assoc, List.cons_append]
    exact .moreItems ht (hs.item_append hg)

theorem Written.member_append (h : Written s (.member name v)) :
    Written (s ++ g) (.member name v) := by
  cases h with
  | member h₁ hn h₂ hs => simpa using Written.member h₁ hn h₂ (hs.item_append hg)

theorem Written.members_append {ms : List (UnitText × Value)} (h : Written s (.members ms)) :
    Written (s ++ g) (.members ms) := by
  cases h with
  | oneMember hs => exact .oneMember (hs.member_append hg)
  | moreMembers ht hs =>
    rw [List.append_assoc, List.cons_append]
    exact .moreMembers ht (hs.member_append hg)

end Padding

mutual

theorem Value.written_pretty (depth : Nat) : ∀ v : Value, Written (v.pretty depth) (.value v)
  | .null => .null
  | .bool true => .boolTrue
  | .bool false => .boolFalse
  | .number c e => .number (isNumber_numberChars c e)
  | .string text => .string (isString_quoted text)
  | .array [] => .emptyArray .nil
  | .array (v :: vs) => by
    have hv := Written.item (gap_newLine (depth + 1)) (v.written_pretty (depth + 1)) .nil
    have hvs := written_prettyItems (depth + 1) vs (.oneItem hv)
    simpa [Value.pretty] using Written.array (hvs.items_append (gap_newLine depth))
  | .object [] => .emptyObject .nil
  | .object ((n, v) :: ms) => by
    have hv := Written.item gap_blank (v.written_pretty (depth + 1)) .nil
    have hm := Written.member (gap_newLine (depth + 1)) (isString_quoted n) .nil hv
    have hms := written_prettyMembers (depth + 1) ms (.oneMember hm)
    simpa [Value.pretty] using Written.object (hms.members_append (gap_newLine depth))

/-- Further items behind those that are written already. -/
theorem written_prettyItems (depth : Nat) : ∀ (vs : List Value) {s : List Char} {us : List Value},
    Written s (.items us) → Written (s ++ prettyItems depth vs) (.items (us ++ vs))
  | [], s, us, h => by simpa [prettyItems] using h
  | v :: vs, s, us, h => by
    have hv := Written.item (gap_newLine depth) (v.written_pretty depth) .nil
    simpa [prettyItems] using written_prettyItems depth vs (.moreItems h hv)

theorem written_prettyMembers (depth : Nat) :
    ∀ (ms : List (UnitText × Value)) {s : List Char} {us : List (UnitText × Value)},
      Written s (.members us) → Written (s ++ prettyMembers depth ms) (.members (us ++ ms))
  | [], s, us, h => by simpa [prettyMembers] using h
  | (n, v) :: ms, s, us, h => by
    have hv := Written.item gap_blank (v.written_pretty depth) .nil
    have hm := Written.member (gap_newLine depth) (isString_quoted n) .nil hv
    simpa [prettyMembers] using written_prettyMembers depth ms (.moreMembers h hm)

end

theorem Value.denotes_render (v : Value) : Denotes v.render v := by
  rw [Denotes, render, String.toList_ofList]
  exact (v.written_pretty 0).item_of_value

theorem Value.ofText?_render (v : Value) : Value.ofText? v.render = some v :=
  ofText?_eq_some_iff.2 v.denotes_render

end GuidAudit.Json
