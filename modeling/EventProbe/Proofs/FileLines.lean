import EventProbe.Capture.Read

/-! The physical lines of a file. A line ends with LF or CRLF, and the last one may have no end. Every
file has exactly one list of lines, and a reader that cuts a file finds it. -/
namespace EventProbe.Capture

/-- A CR at the end of the bytes of a line could belong to the end of the line. -/
def EndsInReturn (content : List UInt8) : Prop :=
  ∃ start, content = start ++ [0x0D]

/-- The lines that bytes consist of, without their ends. -/
inductive Lines : List UInt8 → List (List UInt8) → Prop where
  | none : Lines [] []
  | unended : content ≠ [] → 0x0A ∉ content → Lines content [content]
  | lf : 0x0A ∉ content → ¬ EndsInReturn content → Lines rest lines →
      Lines (content ++ 0x0A :: rest) (content :: lines)
  | crlf : 0x0A ∉ content → Lines rest lines →
      Lines (content ++ 0x0D :: 0x0A :: rest) (content :: lines)

section Cuts
variable {bytes rest content before : List UInt8} {lines : List (List UInt8)}

theorem lineOf_of_return (content : List UInt8) :
    lineOf true (content ++ [0x0D]).reverse = content := by
  rw [List.reverse_append, List.reverse_singleton, List.singleton_append, lineOf,
    List.reverse_reverse]

theorem lineOf_of_not_return (whole : ¬ EndsInReturn content) :
    lineOf true content.reverse = content := by
  unfold lineOf
  split
  · rename_i last _ found
    refine absurd ⟨last.reverse, ?_⟩ whole
    rw [← List.reverse_cons, ← found, List.reverse_reverse]
  · exact List.reverse_reverse content

/-- Bytes that end no line are passed into the present one. -/
theorem cutLines_append (unended : 0x0A ∉ content) (rest found : List UInt8)
    (lines : List (List UInt8)) :
    cutLines (content ++ rest) found lines = cutLines rest (content.reverse ++ found) lines := by
  induction content generalizing found with
  | nil => rfl
  | cons b content ih =>
    obtain ⟨here, later⟩ := not_or.mp (mt List.mem_cons.mpr unended)
    rw [List.cons_append, cutLines, if_neg (Ne.symm here), ih later, List.reverse_cons,
      List.append_assoc, List.singleton_append]

theorem cutLines_lines (bytes found : List UInt8) (lines : List (List UInt8)) :
    cutLines bytes found lines = lines.reverse ++ cutLines bytes found [] := by
  induction bytes generalizing found lines with
  | nil => cases found <;> simp [cutLines]
  | cons b rest ih =>
    unfold cutLines
    split
    · rw [ih [] (_ :: lines), ih [] [_]]
      simp
    · exact ih _ _

theorem fileLines_unended (some : content ≠ []) (unended : 0x0A ∉ content) :
    fileLines content = [content] := by
  have cut := cutLines_append unended [] [] []
  rw [List.append_nil, List.append_nil] at cut
  rw [fileLines, cut]
  unfold cutLines
  split
  · rename_i _ nothing
    exact absurd (List.reverse_eq_nil_iff.mp nothing) some
  · simp [lineOf]
  · contradiction

theorem fileLines_ended (unended : 0x0A ∉ content) (rest : List UInt8) :
    fileLines (content ++ 0x0A :: rest) = lineOf true content.reverse :: fileLines rest := by
  rw [fileLines, cutLines_append unended, cutLines, if_pos rfl, cutLines_lines, List.append_nil]
  rfl

theorem fileLines_lf (unended : 0x0A ∉ content) (whole : ¬ EndsInReturn content)
    (rest : List UInt8) : fileLines (content ++ 0x0A :: rest) = content :: fileLines rest := by
  rw [fileLines_ended unended, lineOf_of_not_return whole]

theorem fileLines_crlf (unended : 0x0A ∉ content) (rest : List UInt8) :
    fileLines (content ++ 0x0D :: 0x0A :: rest) = content :: fileLines rest := by
  have longer : 0x0A ∉ content ++ [0x0D] := by
    simp only [List.mem_append, List.mem_singleton, not_or]
    exact ⟨unended, by decide⟩
  have cut := fileLines_ended longer rest
  rwa [lineOf_of_return, List.append_assoc, List.singleton_append] at cut

theorem lines_fileLines (bytes : List UInt8) : Lines bytes (fileLines bytes) := by
  -- On the length: `fileLines` walks over bytes, but `Lines` takes off a whole line.
  induction size : bytes.length using Nat.strongRecOn generalizing bytes with
  | _ n ih =>
    by_cases ended : (0x0A : UInt8) ∈ bytes
    · obtain ⟨content, rest, rfl, unended⟩ := List.eq_append_cons_of_mem ended
      have shorter : rest.length < n := by
        rw [List.length_append, List.length_cons] at size
        omega
      have later := ih rest.length shorter rest rfl
      by_cases whole : EndsInReturn content
      · obtain ⟨content, rfl⟩ := whole
        have unended : 0x0A ∉ content := fun inside => unended (List.mem_append_left _ inside)
        rw [List.append_assoc, List.singleton_append, fileLines_crlf unended]
        exact .crlf unended later
      · rw [fileLines_lf unended whole]
        exact .lf unended whole later
    · by_cases some : bytes = []
      · subst some
        exact .none
      · rw [fileLines_unended some ended]
        exact .unended some ended

theorem Lines.eq_fileLines (cut : Lines bytes lines) : lines = fileLines bytes := by
  induction cut with
  | none => rfl
  | unended some unended => exact (fileLines_unended some unended).symm
  | lf unended whole _ ih => rw [fileLines_lf unended whole, ih]
  | crlf unended _ ih => rw [fileLines_crlf unended, ih]

theorem lines_iff : Lines bytes lines ↔ lines = fileLines bytes := by
  constructor
  · exact Lines.eq_fileLines
  · rintro rfl
    exact lines_fileLines bytes

theorem fileLines_append (before after : List UInt8) :
    fileLines (before ++ 0x0A :: after) = fileLines (before ++ [0x0A]) ++ fileLines after := by
  induction size : before.length using Nat.strongRecOn generalizing before with
  | _ n ih =>
    by_cases ended : (0x0A : UInt8) ∈ before
    · obtain ⟨content, rest, rfl, unended⟩ := List.eq_append_cons_of_mem ended
      have shorter : rest.length < n := by
        rw [List.length_append, List.length_cons] at size
        omega
      have later := ih rest.length shorter rest rfl
      simp only [List.append_assoc, List.cons_append]
      rw [fileLines_ended unended, later, fileLines_ended unended, List.cons_append]
    · rw [fileLines_ended ended, fileLines_ended ended]
      rfl

/-- Bytes are the start of a line, after the ends of other lines if there are any. -/
theorem exists_last_line (bytes : List UInt8) : ∃ before content, 0x0A ∉ content ∧
    (bytes = content ∧ before = [] ∨ bytes = before ++ 0x0A :: content) := by
  by_cases ended : (0x0A : UInt8) ∈ bytes
  · obtain ⟨content, before, split, unended⟩ :=
      List.eq_append_cons_of_mem (List.mem_reverse.mpr ended)
    refine ⟨before.reverse, content.reverse, mt List.mem_reverse.mp unended, .inr ?_⟩
    rw [← List.reverse_reverse bytes, split]
    simp
  · exact ⟨[], bytes, ended, .inl ⟨rfl, rfl⟩⟩

end Cuts

end EventProbe.Capture
