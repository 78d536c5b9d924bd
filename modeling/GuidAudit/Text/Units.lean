namespace GuidAudit

/-- One unit below U+10000, a high and a low surrogate from there on. -/
def charUnits (c : Char) : List UInt16 :=
  let n := c.toNat
  if n < 0x10000 then [.ofNat n]
  else [.ofNat (0xD800 + (n - 0x10000) / 0x400), .ofNat (0xDC00 + (n - 0x10000) % 0x400)]

def units (s : List Char) : List UInt16 := s.flatMap charUnits

def unitLength (s : List Char) : Nat := (units s).length

def isHighSurrogate (n : Nat) : Bool := 0xD800 ≤ n && n < 0xDC00

def isLowSurrogate (n : Nat) : Bool := 0xDC00 ≤ n && n < 0xE000

/-- Stands for units and bytes that encode no character. -/
def replacementChar : Char := '\ufffd'

/-- What units stand for: a character, or else a surrogate without its partner. -/
inductive Piece where
  | char (c : Char)
  | lone (unit : UInt16)
  deriving DecidableEq, Repr

def Piece.ofUnit (u : UInt16) : Piece :=
  if isHighSurrogate u.toNat || isLowSurrogate u.toNat then .lone u else .char (Char.ofNat u.toNat)

/-- Pairs of surrogates are joined. -/
def pieces : List UInt16 → List Piece
  | [] => []
  | h :: l :: s =>
    if isHighSurrogate h.toNat && isLowSurrogate l.toNat then
      .char (Char.ofNat (0x10000 + (h.toNat - 0xD800) * 0x400 + (l.toNat - 0xDC00))) :: pieces s
    else .ofUnit h :: pieces (l :: s)
  | [u] => [.ofUnit u]

def Piece.shown : Piece → Char
  | .char c => c
  | .lone _ => replacementChar

def Piece.units : Piece → List UInt16
  | .char c => charUnits c
  | .lone u => [u]

/-- The characters that units stand for. A surrogate without its partner is replaced. -/
def ofUnits (s : List UInt16) : List Char := (pieces s).map Piece.shown

/-- The beginning of a text, so many units long. -/
def takeUnits (n : Nat) (s : List Char) : List Char := ofUnits ((units s).take n)

theorem charUnits_of_lt {c : Char} (h : c.toNat < 0x10000) : charUnits c = [.ofNat c.toNat] :=
  if_pos h

theorem charUnits_of_le {c : Char} (h : 0x10000 ≤ c.toNat) :
    charUnits c = [.ofNat (0xD800 + (c.toNat - 0x10000) / 0x400),
      .ofNat (0xDC00 + (c.toNat - 0x10000) % 0x400)] :=
  if_neg (Nat.not_lt.2 h)

theorem toNat_range (c : Char) : c.toNat < 0xD800 ∨ 0xDFFF < c.toNat ∧ c.toNat < 0x110000 := by
  have h := c.valid
  simp only [UInt32.isValidChar, Nat.isValidChar] at h
  exact h

theorem not_surrogate (c : Char) :
    isHighSurrogate c.toNat = false ∧ isLowSurrogate c.toNat = false := by
  have h := toNat_range c
  simp only [isHighSurrogate, isLowSurrogate, Bool.and_eq_false_iff, decide_eq_false_iff_not]
  omega

theorem toNat_ofNat_unit {n : Nat} (h : n < 0x10000) : (UInt16.ofNat n).toNat = n :=
  UInt16.toNat_ofNat_of_lt h

theorem pieces_charUnits_append (c : Char) (s : List UInt16) :
    pieces (charUnits c ++ s) = .char c :: pieces s := by
  rcases Nat.lt_or_ge c.toNat 0x10000 with h | h
  · obtain ⟨hh, hl⟩ := not_surrogate c
    have hu : (UInt16.ofNat c.toNat).toNat = c.toNat := toNat_ofNat_unit h
    have hp : Piece.ofUnit (.ofNat c.toNat) = .char c := by
      simp [Piece.ofUnit, hu, hh, hl, Char.ofNat_toNat]
    rw [charUnits_of_lt h]
    cases s with
    | nil => simp [pieces, hp]
    | cons l s => simp [pieces, hu, hh, hp]
  · have hc := toNat_range c
    have hu : (UInt16.ofNat (0xD800 + (c.toNat - 0x10000) / 0x400)).toNat =
        0xD800 + (c.toNat - 0x10000) / 0x400 := toNat_ofNat_unit (by omega)
    have hv : (UInt16.ofNat (0xDC00 + (c.toNat - 0x10000) % 0x400)).toNat =
        0xDC00 + (c.toNat - 0x10000) % 0x400 := toNat_ofNat_unit (by omega)
    have hh : isHighSurrogate (0xD800 + (c.toNat - 0x10000) / 0x400) = true := by
      simp only [isHighSurrogate, Bool.and_eq_true, decide_eq_true_eq]
      omega
    have hl : isLowSurrogate (0xDC00 + (c.toNat - 0x10000) % 0x400) = true := by
      simp only [isLowSurrogate, Bool.and_eq_true, decide_eq_true_eq]
      omega
    have hn : 0x10000 + (0xD800 + (c.toNat - 0x10000) / 0x400 - 0xD800) * 0x400 +
        (0xDC00 + (c.toNat - 0x10000) % 0x400 - 0xDC00) = c.toNat := by omega
    rw [charUnits_of_le h]
    simp only [List.cons_append, List.nil_append, pieces, hu, hv, hh, hl, Bool.and_self,
      ↓reduceIte, hn, Char.ofNat_toNat]

theorem pieces_units_append (s : List Char) (u : List UInt16) :
    pieces (units s ++ u) = s.map .char ++ pieces u := by
  induction s with
  | nil => rfl
  | cons c s ih =>
    rw [units, List.flatMap_cons, List.append_assoc, pieces_charUnits_append]
    exact congrArg (.char c :: ·) ih

theorem ofUnits_units_append (s : List Char) (u : List UInt16) :
    ofUnits (units s ++ u) = s ++ ofUnits u := by
  simp [ofUnits, pieces_units_append, Piece.shown, Function.comp_def]

theorem toNat_ofNat_of_range {n : Nat} (h : n < 0xD800 ∨ 0xDFFF < n ∧ n < 0x110000) :
    (Char.ofNat n).toNat = n := by
  have hvalid : n.isValidChar := h
  rw [Char.ofNat, dif_pos hvalid]
  rfl

theorem Piece.units_ofUnit (u : UInt16) : (ofUnit u).units = [u] := by
  unfold ofUnit
  split
  · rfl
  · rename_i h
    have hu : u.toNat < 0x10000 := u.toNat_lt
    simp only [isHighSurrogate, isLowSurrogate, Bool.or_eq_true, Bool.and_eq_true,
      decide_eq_true_eq] at h
    have hn : (Char.ofNat u.toNat).toNat = u.toNat := toNat_ofNat_of_range (by omega)
    have hc : (Char.ofNat u.toNat).toNat < 0x10000 := by rwa [hn]
    rw [units, charUnits_of_lt hc, hn, UInt16.ofNat_toNat]

/-- No unit is lost in the pieces. -/
theorem flatMap_units_pieces (s : List UInt16) : (pieces s).flatMap Piece.units = s := by
  fun_induction pieces s with
  | case1 => rfl
  | case2 h l s hpair ih =>
    simp only [isHighSurrogate, isLowSurrogate, Bool.and_eq_true, decide_eq_true_eq] at hpair
    have hn := toNat_ofNat_of_range
      (n := 0x10000 + (h.toNat - 0xD800) * 0x400 + (l.toNat - 0xDC00)) (by omega)
    have hhigh : 0xD800 + (0x10000 + (h.toNat - 0xD800) * 0x400 + (l.toNat - 0xDC00) - 0x10000) /
        0x400 = h.toNat := by omega
    have hlow : 0xDC00 + (0x10000 + (h.toNat - 0xD800) * 0x400 + (l.toNat - 0xDC00) - 0x10000) %
        0x400 = l.toNat := by omega
    rw [List.flatMap_cons, ih, Piece.units, charUnits_of_le (by omega), hn, hhigh, hlow,
      UInt16.ofNat_toNat, UInt16.ofNat_toNat]
    rfl
  | case3 h l s hpair ih =>
    rw [List.flatMap_cons, ih, Piece.units_ofUnit]
    rfl
  | case4 u =>
    rw [List.flatMap_cons, Piece.units_ofUnit]
    rfl

/-- No text is lost in its units. -/
theorem ofUnits_units (s : List Char) : ofUnits (units s) = s := by
  have h := ofUnits_units_append s []
  rw [List.append_nil] at h
  rw [h]
  exact List.append_nil s

theorem units_injective {a b : String} (h : units a.toList = units b.toList) : a = b := by
  have hchars := congrArg ofUnits h
  rw [ofUnits_units, ofUnits_units] at hchars
  exact String.toList_inj.1 hchars

/-- Compares texts by their units, so a character beyond U+FFFF stands before U+E000. -/
def unitsLe (a b : String) : Bool := units a.toList ≤ units b.toList

def sortByUnits (texts : List String) : List String := texts.mergeSort unitsLe

theorem unitsLe_total (a b : String) : (unitsLe a b || unitsLe b a) = true := by
  simpa [unitsLe] using List.le_total (units a.toList) (units b.toList)

theorem unitsLe_trans (a b c : String) (hab : unitsLe a b = true) (hbc : unitsLe b c = true) :
    unitsLe a c = true := by
  simp only [unitsLe, decide_eq_true_eq] at *
  exact List.le_trans hab hbc

theorem unitsLe_antisymm {a b : String} (hab : unitsLe a b = true) (hba : unitsLe b a = true) :
    a = b := by
  simp only [unitsLe, decide_eq_true_eq] at *
  exact units_injective (List.le_antisymm hab hba)

theorem pairwise_sortByUnits (texts : List String) :
    (sortByUnits texts).Pairwise fun a b => unitsLe a b = true :=
  List.pairwise_mergeSort unitsLe_trans unitsLe_total texts

theorem sortByUnits_perm (texts : List String) : (sortByUnits texts).Perm texts :=
  List.mergeSort_perm texts unitsLe

/-- A text in which a surrogate need not have its partner. -/
@[ext] structure UnitText where
  units : List UInt16
  deriving DecidableEq, Repr

namespace UnitText

def ofString (s : String) : UnitText := ⟨GuidAudit.units s.toList⟩

instance : Coe String UnitText := ⟨ofString⟩

instance : Append UnitText := ⟨fun s t => ⟨s.units ++ t.units⟩⟩

def intercalate (separator : UnitText) (texts : List UnitText) : UnitText :=
  ⟨separator.units.intercalate (texts.map units)⟩

/-- The text in characters, as it is printed and written to files. -/
def shown (t : UnitText) : String := String.ofList (ofUnits t.units)

def toUTF8 (t : UnitText) : ByteArray := t.shown.toUTF8

@[simp] theorem shown_ofString (s : String) : (ofString s).shown = s := by
  rw [shown, ofString, ofUnits_units, String.ofList_toList]

/-- A text of characters in front of another stays as it is. -/
theorem shown_ofString_append (s : String) (t : UnitText) :
    (ofString s ++ t).shown = s ++ t.shown := by
  apply String.toList_inj.1
  rw [String.toList_append, shown, shown, String.toList_ofList, String.toList_ofList]
  exact ofUnits_units_append s.toList t.units

@[simp] theorem toUTF8_ofString (s : String) : (ofString s).toUTF8 = s.toUTF8 := by
  rw [toUTF8, shown_ofString]

@[simp] theorem ofString_inj {s t : String} : ofString s = ofString t ↔ s = t := by
  refine ⟨fun h => ?_, congrArg ofString⟩
  exact units_injective (congrArg units h)

@[simp] theorem ofString_append (s t : String) : ofString (s ++ t) = ofString s ++ ofString t := by
  rw [ofString, String.toList_append, GuidAudit.units, List.flatMap_append]
  rfl

end UnitText

end GuidAudit
