import Mathlib.Data.List.Forall2
import GuidAudit.Proofs.Lines
import GuidAudit.Proofs.Padding
import GuidAudit.Verdict

namespace GuidAudit

variable {marked marked' : Line} {ls ls' : List Line}

/-- Two lines that an audit cannot tell apart. -/
structure Alike (line line' : Line) : Prop where
  annotation : isAnnotationLine line = isAnnotationLine line'
  member : Member.ofLine? line = Member.ofLine? line'
  owner : structName? line = structName? line'
  text : trim line = trim line'

theorem alike_padded (left right : Padding) (line : Line) :
    Alike (left.chars ++ line ++ right.chars) line := by
  have hleft : skipBlanks (left.chars ++ line) = skipBlanks line :=
    skipBlanks_append_of_blank left.blank
  exact {
    annotation := by
      rw [right.isAnnotationLine_append, isAnnotationLine, hleft]
      rfl
    member := by
      rw [right.ofLine?_append, Member.ofLine?, hleft]
      rfl
    owner := by
      rw [right.structName?_append, structName?, hleft]
      rfl
    text := by
      rw [right.trim_append, trim, hleft]
      rfl }

section Alike

variable (h : List.Forall₂ Alike ls ls')
include h

theorem detect?_eq_of_alike (hmarked : Alike marked marked') (number : Nat) :
    detect? number marked ls = detect? number marked' ls' := by
  have hbelow := List.forall₂_take lookahead h
  rw [detect?, detect?]
  generalize number + 1 = first
  generalize ls.take lookahead = below at hbelow ⊢
  generalize ls'.take lookahead = below' at hbelow ⊢
  induction hbelow generalizing first with
  | nil => rfl
  | @cons line line' rest rest' hline _ ih =>
    rw [firstMember?, firstMember?, hline.member]
    cases Member.ofLine? line' with
    | none => exact ih (first + 1)
    | some member => simp only [Option.map_some, trimmed, hline.text, hmarked.text]

theorem detections_eq_of_alike : detections ls = detections ls' := by
  suffices hfrom : ∀ number, detectionsFrom number ls = detectionsFrom number ls' from hfrom 1
  induction h with
  | nil => exact fun _ => rfl
  | cons hline hrest ih =>
    intro number
    rw [detectionsFrom, detectionsFrom, hline.annotation, ih,
      detect?_eq_of_alike hrest hline number]

theorem ownerAt_eq_of_alike (index : Int) : ownerAt ls index = ownerAt ls' index := by
  have hnames : ls.map structName? = ls'.map structName? := by
    induction h with
    | nil => rfl
    | cons hline _ ih => rw [List.map_cons, List.map_cons, hline.owner, ih]
  have howner (ls : List Line) : (ls.take index.toNat).reverse.findSome? structName? =
      ((ls.map structName?).take index.toNat).reverse.findSome? id := by
    rw [← List.map_take, ← List.map_reverse, List.findSome?_map]
    rfl
  rw [ownerAt, ownerAt, howner, howner, hnames]

theorem properties_eq_of_alike (file : String) : properties file ls = properties file ls' := by
  simp only [properties, detections_eq_of_alike h, ownerAt_eq_of_alike h]

end Alike

/-- A line without anything in it that would end it, or be taken into its end. -/
structure PlainLine where
  chars : Line
  unbroken : '\n' ∉ chars
  unreturned : chars.getLast? ≠ some '\r'

/-- What stands between two lines. -/
inductive LineEnd where
  | lineFeed
  | returnLineFeed

def LineEnd.chars : LineEnd → List Char
  | .lineFeed => ['\n']
  | .returnLineFeed => ['\r', '\n']

/-- How a line is set: what stands on its left and right, and what ends it if another follows. -/
structure Setting where
  left : Padding
  right : Padding
  ending : LineEnd

def Setting.wrap (setting : Setting) (line : PlainLine) : Line :=
  setting.left.chars ++ line.chars ++ setting.right.chars

/-- The text that has the given lines, each of them in its own setting. -/
def laidOut (settings : Nat → Setting) : List PlainLine → List Char
  | [] => []
  | [line] => (settings 0).wrap line
  | line :: next :: rest =>
    (settings 0).wrap line ++ (settings 0).ending.chars ++
      laidOut (fun i => settings (i + 1)) (next :: rest)

namespace Setting

variable (setting : Setting) (line : PlainLine)

theorem lineFeed_not_mem_wrap : '\n' ∉ setting.wrap line := by
  have hpad (pad : Padding) : '\n' ∉ pad.chars := by
    intro h
    exact absurd (pad.unbroken _ h) (by decide)
  simp only [wrap, List.mem_append, not_or]
  exact ⟨⟨hpad _, line.unbroken⟩, hpad _⟩

theorem getLast?_wrap : (setting.wrap line).getLast? ≠ some '\r' := by
  have hpad (pad : Padding) : pad.chars.getLast? ≠ some '\r' := by
    intro h
    exact absurd (pad.unbroken _ (List.mem_of_getLast? h)) (by decide)
  intro h
  rw [wrap, List.getLast?_append, List.getLast?_append] at h
  rcases Option.or_eq_some_iff.1 h with h | ⟨_, h⟩
  · exact hpad _ h
  · rcases Option.or_eq_some_iff.1 h with h | ⟨_, h⟩
    · exact line.unreturned h
    · exact hpad _ h

theorem lines_wrap_append (t : List Char) :
    lines (setting.wrap line ++ setting.ending.chars ++ t) = setting.wrap line :: lines t := by
  have hline := setting.lineFeed_not_mem_wrap line
  rw [List.append_assoc]
  cases setting.ending with
  | lineFeed =>
    exact (lines_append (setting.getLast?_wrap line)).trans (by rw [lines_of_unbroken hline]; rfl)
  | returnLineFeed => exact lines_append_returnLineFeed hline

theorem alike_wrap : Alike (setting.wrap line) line.chars :=
  alike_padded setting.left setting.right line.chars

end Setting

theorem alike_lines_laidOut (settings : Nat → Setting) (line : PlainLine) (rest : List PlainLine) :
    List.Forall₂ Alike (lines (laidOut settings (line :: rest)))
      ((line :: rest).map PlainLine.chars) := by
  induction rest generalizing settings line with
  | nil =>
    rw [laidOut, lines_of_unbroken ((settings 0).lineFeed_not_mem_wrap line)]
    exact .cons ((settings 0).alike_wrap line) .nil
  | cons next rest ih =>
    rw [laidOut, (settings 0).lines_wrap_append]
    exact .cons ((settings 0).alike_wrap line) (ih _ next)

theorem properties_laidOut (file : String) (settings : Nat → Setting) (ls : List PlainLine) :
    properties file (lines (laidOut settings ls)) = properties file (ls.map PlainLine.chars) := by
  cases ls with
  | nil => rfl
  | cons line rest => exact properties_eq_of_alike (alike_lines_laidOut settings line rest) file

/-- However the lines of a text are padded with blanks and ended, the audit is that of the lines. -/
theorem audit_ignores_layout (file : String) (keys : KeySet) (ls : List PlainLine)
    (settings settings' : Nat → Setting) :
    let audit := auditContent file (String.ofList (laidOut settings ls)) keys
    audit = auditContent file (String.ofList (laidOut settings' ls)) keys ∧
      audit.found = properties file (ls.map PlainLine.chars) := by
  have hfound (settings : Nat → Setting) :
      auditContent file (String.ofList (laidOut settings ls)) keys =
        auditProperties file (properties file (ls.map PlainLine.chars)) keys := by
    rw [auditContent, String.toList_ofList, properties_laidOut]
  intro audit
  exact ⟨(hfound settings).trans (hfound settings').symm,
    congrArg FileAudit.found (hfound settings)⟩

end GuidAudit
