import GuidAudit.Proofs.Annotation
import GuidAudit.Proofs.Declaration
import GuidAudit.Proofs.Lines

namespace GuidAudit

variable {s t line marked : List Char} {c : Char} {member : Member}

theorem dropWhile_append_cons {p : Char → Bool} (hc : p c = false) (s t : List Char) :
    (s ++ c :: t).dropWhile p = s.dropWhile p ++ c :: t := by
  induction s with
  | nil => exact List.dropWhile_cons_of_neg (by simp [hc])
  | cons d s ih =>
    rw [List.cons_append, List.dropWhile_cons, List.dropWhile_cons]
    split
    · exact ih
    · rfl

/-- Trimming takes nothing away before the last character that is not blank. -/
theorem trimRight_append_cons (hc : isBlank c = false) (s t : List Char) :
    trimRight (s ++ c :: t) = s ++ c :: trimRight t := by
  have hreverse : (s ++ c :: t).reverse = t.reverse ++ c :: s.reverse := by simp
  rw [trimRight, hreverse, dropWhile_append_cons hc, trimRight]
  simp

theorem trimRight_of_blank (h : AllBlank s) : trimRight s = [] :=
  trimRight_append_of_blank (s := []) h

theorem stops_trim (s : List Char) : Stops isBlank (trim s) := by
  have hstops := stops_skipBlanks s
  rw [trim]
  cases hs : skipBlanks s with
  | nil =>
    intro c hc
    cases hc
  | cons c t =>
    have hc : isBlank c = false := hstops c (by rw [hs]; rfl)
    have htrim : trimRight (c :: t) = c :: trimRight t := trimRight_append_cons hc [] t
    rw [htrim]
    exact Stops.cons hc _

theorem stops_reverse_trim (s : List Char) : Stops isBlank (trim s).reverse := by
  rw [trim, trimRight, List.reverse_reverse]
  exact stops_dropWhile isBlank _

theorem trim_trim (s : List Char) : trim (trim s) = trim s := by
  have hleft : skipBlanks (trim s) = trim s := (stops_trim s).dropWhile_eq
  rw [trim, hleft, trimRight, (stops_reverse_trim s).dropWhile_eq, List.reverse_reverse]

theorem getLast?_trim_ne (hc : isBlank c = true) : (trim s).getLast? ≠ some c := by
  intro hlast
  rw [← List.head?_reverse] at hlast
  have hsolid := stops_reverse_trim s c hlast
  rw [hc] at hsolid
  cases hsolid

theorem IsTrailer.trimRight (h : IsTrailer s) : IsTrailer (trimRight s) := by
  rcases h with h | ⟨w, text, rfl, hw, htext⟩
  · rw [trimRight_of_blank h]
    exact .inl nofun
  · have hsplit : w ++ '/' :: '/' :: text = (w ++ ['/']) ++ '/' :: text := by simp
    rw [hsplit, trimRight_append_cons (by decide)]
    refine .inr ⟨w, GuidAudit.trimRight text, by simp, hw, fun c hc => ?_⟩
    exact htext c (mem_of_mem_trimRight hc)

/-- The parts of a declaration that are left when its line is trimmed. -/
def Declaration.trimmedParts (d : Declaration) : Declaration :=
  { d with
    indent := []
    trailer := trimRight d.trailer
    indent_blank := nofun
    trailer_valid := d.trailer_valid.trimRight }

/-- Neither end of a declaration can be trimmed past the type and the semicolon. -/
theorem Declaration.trim_chars (d : Declaration) : trim d.chars = d.trimmedParts.chars := by
  have hskip : skipBlanks d.chars = d.trimmedParts.front ++ ';' :: d.trailer := by
    apply skipBlanks_eq_iff.2
    refine ⟨d.indent, d.indent_blank, ?_, Stops.cons (by decide) _⟩
    simp only [chars, front, middle, trimmedParts, List.append_assoc, List.nil_append]
  rw [trim, hskip, trimRight_append_cons (by decide)]
  rfl

theorem ofLine?_trim (h : Member.ofLine? line = some member) :
    Member.ofLine? (trim line) = some member := by
  obtain ⟨d, rfl⟩ := exists_declaration h
  rw [d.trim_chars, Declaration.ofLine?_chars]
  rw [d.ofLine?_chars] at h
  exact h

def AnnotationParts.trimmedParts (a : AnnotationParts) : AnnotationParts :=
  { a with
    indent := []
    tail := []
    indent_blank := nofun
    tail_blank := nofun }

theorem AnnotationParts.trim_chars (a : AnnotationParts) : trim a.chars = a.trimmedParts.chars := by
  have hskip : skipBlanks a.chars =
      ("UPROPERTY".toList ++ a.margin ++ '(' :: a.arguments) ++ ')' :: a.tail := by
    apply skipBlanks_eq_iff.2
    refine ⟨a.indent, a.indent_blank, ?_, Stops.cons (by decide) _⟩
    simp only [chars, List.append_assoc]
  rw [trim, hskip, trimRight_append_cons (by decide), trimRight_of_blank a.tail_blank]
  simp only [chars, trimmedParts, List.nil_append]

theorem isAnnotationLine_trim (h : isAnnotationLine line = true) :
    isAnnotationLine (trim line) = true := by
  obtain ⟨a, rfl⟩ := isAnnotationLine_iff_exists.1 h
  exact isAnnotationLine_iff_exists.2 ⟨a.trimmedParts, a.trim_chars.symm⟩

/-- No line is both, since the two begin with different words. -/
theorem isAnnotationLine_eq_false_of_member (h : Member.ofLine? line = some member) :
    isAnnotationLine line = false := by
  obtain ⟨rest, hrest, _⟩ := Option.bind_eq_some_iff.1 h
  have hline : skipBlanks line = 'F' :: ("Guid".toList ++ rest) := after?_eq_some_iff.1 hrest
  rw [isAnnotationLine, hline]
  rfl

/-- An annotation right above a member stands for it. -/
theorem detections_pair (hmarked : isAnnotationLine marked = true)
    (hmember : Member.ofLine? line = some member) :
    detections [marked, line] = [{
      line := 2
      name := String.ofList member.name
      annotationText := trimmed marked
      declarationText := trimmed line
      initializer := member.initializer.map trimmed }] := by
  have hline := isAnnotationLine_eq_false_of_member hmember
  simp [detections, detectionsFrom, hmarked, hline, detect?, lookahead, firstMember?, hmember]

/-- Two trimmed lines with a line feed between them are the lines of a text. -/
theorem lines_trimmed_pair (hs : '\n' ∉ s) (ht : '\n' ∉ t) :
    lines (trimmed s ++ "\n" ++ trimmed t).toList = [trim s, trim t] := by
  have hunbroken {s : List Char} (h : '\n' ∉ s) : '\n' ∉ trim s := fun hm => h (mem_of_mem_trim hm)
  have htext : (trimmed s ++ "\n" ++ trimmed t).toList = trim s ++ '\n' :: trim t := by
    simp [trimmed]
  rw [htext, lines_append (getLast?_trim_ne (by decide)), lines_of_unbroken (hunbroken hs),
    lines_of_unbroken (hunbroken ht)]
  rfl

/-- What is noted down of a member suffices to find it again: the two line texts alone, as a header,
give the same detection and no other, at the second line. -/
theorem detection_found_in_own_lines (content : String) (d : Detection)
    (h : d ∈ detections (lines content.toList)) :
    detections (lines (d.annotationText ++ "\n" ++ d.declarationText).toList) =
      [{ d with line := 2 }] := by
  obtain ⟨i, j, hmarks, marked, line, member, hi, hj, hmember, rfl⟩ := mem_detections_iff.1 h
  have hmarked : isAnnotationLine marked = true := by
    have hannotation := hmarks.annotation
    rwa [annotationAt, hi] at hannotation
  rw [lines_trimmed_pair (lineFeed_not_mem_of_mem_lines (List.mem_of_getElem? hi))
    (lineFeed_not_mem_of_mem_lines (List.mem_of_getElem? hj)),
    detections_pair (isAnnotationLine_trim hmarked) (ofLine?_trim hmember)]
  simp only [trimmed, trim_trim]

/-- Blanks around both lines, one of them a carriage return, a line between the two, and an
initializer that is a blank. -/
theorem detection_found_in_own_lines_of_blank_initializer :
    let content := "\tUPROPERTY ( Edit = (Any) ) \r\r\n//\r\n FGuid\tId = \t; // a;b \n"
    let d : Detection := {
      line := 3
      name := "Id"
      annotationText := "UPROPERTY ( Edit = (Any) )"
      declarationText := "FGuid\tId = \t; // a;b"
      initializer := some "" }
    d ∈ detections (lines content.toList) ∧
      detections (lines (d.annotationText ++ "\n" ++ d.declarationText).toList) =
        [{ d with line := 2 }] := by
  intro content d
  have h : d ∈ detections (lines content.toList) := by decide
  exact ⟨h, detection_found_in_own_lines content d h⟩

end GuidAudit
