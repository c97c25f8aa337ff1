import EventProbe.FieldName

/-! The text of a field name that was read is the text it was read from. -/
namespace EventProbe.FieldName

variable {chars rest left segments inside : List Char}

/-- A path and what is left after it make up the characters. -/
theorem pathTail_append (chars found : List Char) :
    (pathTail chars found).1 ++ (pathTail chars found).2 = found.reverse ++ chars := by
  induction chars generalizing found with
  | nil => rfl
  | cons c rest ih =>
    have longer : (c :: found).reverse ++ rest = found.reverse ++ c :: rest := by
      rw [List.reverse_cons, List.append_assoc, List.singleton_append]
    unfold pathTail
    split
    · exact (ih (c :: found)).trans longer
    · split
      · exact (ih (c :: found)).trans longer
      · rfl

theorem takePath_append (taken : takePath chars = some (segments, rest)) :
    segments ++ rest = chars := by
  unfold takePath at taken
  split at taken
  · have parts := pathTail_append chars []
    rw [Option.some.inj taken] at parts
    exact parts
  · cases taken

theorem takeArgument_append (taken : takeArgument chars = some (inside, left)) :
    '[' :: (inside ++ ']' :: left) = chars := by
  unfold takeArgument at taken
  split at taken
  · rename_i rest
    have parts := List.prefix_iff_eq_append.mp (List.takeWhile_prefix isArgumentChar (l := rest))
    dsimp only at taken
    split at taken
    · rename_i closed
      split at taken
      · cases taken
      · cases taken
        rw [closed] at parts
        rw [parts]
    · cases taken
  · cases taken

theorem text_of_read (accepted : read chars = .ok f) : f.text = String.ofList chars := by
  unfold read at accepted
  split at accepted
  · cases accepted
  · rename_i segments rest path
    have parts := takePath_append path
    cases bracketed : takeArgument rest with
    | none =>
      simp only [bracketed] at accepted
      split at accepted
      · rename_i nothing
        cases accepted
        rw [List.isEmpty_iff.mp nothing, List.append_nil] at parts
        simp only [text, Option.map_none, parts]
      · cases accepted
    | some argument =>
      obtain ⟨inside, left⟩ := argument
      have brackets := takeArgument_append bracketed
      simp only [bracketed] at accepted
      split at accepted
      · rename_i nothing
        cases accepted
        rw [List.isEmpty_iff.mp nothing] at brackets
        apply String.toList_injective
        simp only [text, Option.map_some, String.toList_append, String.toList_ofList]
        rw [← parts, ← brackets]
        simp
      · cases accepted

/-- A field name is written as it was read. -/
theorem text_of_parse (accepted : parse name = .ok f) : f.text = name := by
  rw [text_of_read accepted, String.ofList_toList]

end EventProbe.FieldName
