import EventProbe.Proofs.FieldNameText
import EventProbe.Proofs.Utf8RoundTrip

/-! The grammar of field names. A text is read as a field name exactly if it is segments joined by dots
and at most one argument in brackets, and then in one way. The fault of any other text stands behind the
longest field name that it begins with. -/
namespace EventProbe.FieldName

def SegmentLetter (c : Char) : Prop :=
  'A' ≤ c ∧ c ≤ 'Z' ∨ 'a' ≤ c ∧ c ≤ 'z' ∨ '0' ≤ c ∧ c ≤ '9' ∨ c = '_'

structure Segment (chars : List Char) : Prop where
  nonempty : chars ≠ []
  letters : ∀ c ∈ chars, SegmentLetter c

inductive Path : List Char → Prop where
  | segment : Segment s → Path s
  | dotted : Segment s → Path p → Path (s ++ '.' :: p)

structure Argument (chars : List Char) : Prop where
  nonempty : chars ≠ []
  unbracketed : ∀ c ∈ chars, c ≠ '[' ∧ c ≠ ']'

/-- The characters that a field name is written with. -/
inductive Spells : List Char → FieldName → Prop where
  | bare : Path p → Spells p ⟨String.ofList p, none⟩
  | bracketed : Path p → Argument a →
      Spells (p ++ '[' :: (a ++ [']'])) ⟨String.ofList p, some (String.ofList a)⟩

/-- The parts of a field name can be written. -/
structure WellFormed (f : FieldName) : Prop where
  path : Path f.path.toList
  argument : ∀ a, f.argument = some a → Argument a.toList

structure Begins (text start : String) : Prop where
  starts : start.toList <+: text.toList
  accepted : ∃ f, parse start = .ok f

/-- The number of bytes of the longest field name that a text begins with; zero if there is none. -/
inductive LongestStart (text : String) : Nat → Prop where
  | none : (∀ start, ¬ Begins text start) → LongestStart text 0
  | some : Begins text start →
      (∀ other, Begins text other → other.utf8ByteSize ≤ start.utf8ByteSize) →
      LongestStart text start.utf8ByteSize

/-! ## Paths -/

section Paths
variable {chars rest found s q : List Char} {c : Char}

theorem isSegmentChar_iff : isSegmentChar c = true ↔ SegmentLetter c := by
  have parts : isSegmentChar c = (c.isUpper || c.isLower || c.isDigit || c == '_') := rfl
  have upper : c.isUpper = decide ('A' ≤ c ∧ c ≤ 'Z') := rfl
  have lower : c.isLower = (decide ('a' ≤ c) && decide (c ≤ 'z')) := rfl
  have digit : c.isDigit = (decide ('0' ≤ c) && decide (c ≤ '9')) := rfl
  simp only [SegmentLetter, parts, upper, lower, digit, Bool.or_eq_true, Bool.and_eq_true,
    decide_eq_true_eq, beq_iff_eq, or_assoc]

theorem Segment.accepted (segment : Segment s) : ∀ c ∈ s, isSegmentChar c = true :=
  fun c inside => isSegmentChar_iff.mpr (segment.letters c inside)

theorem segment_of_accepted (nonempty : s ≠ []) (accepted : ∀ c ∈ s, isSegmentChar c = true) :
    Segment s :=
  ⟨nonempty, fun c inside => isSegmentChar_iff.mp (accepted c inside)⟩

def opens (chars : List Char) : Bool :=
  (chars.head?.map isSegmentChar).getD false

/-- Nothing more of a path follows. -/
structure Stops (rest : List Char) : Prop where
  segment : opens rest = false
  dot : ∀ tail, rest = '.' :: tail → opens tail = false

theorem Segment.opens (segment : Segment s) (rest : List Char) : opens (s ++ rest) = true := by
  cases s with
  | nil => exact absurd rfl segment.nonempty
  | cons c s => exact segment.accepted c List.mem_cons_self

theorem Path.opens (path : Path p) (rest : List Char) : opens (p ++ rest) = true := by
  cases path with
  | segment segment => exact segment.opens rest
  | dotted segment path =>
    rw [List.append_assoc]
    exact segment.opens _

theorem Path.dot (path : Path p) (next : Path q) : Path (p ++ '.' :: q) := by
  induction path with
  | segment segment => exact .dotted segment next
  | dotted segment path ih =>
    rw [List.append_assoc, List.cons_append]
    exact .dotted segment ih

theorem Path.concat (path : Path p) (letter : isSegmentChar c = true) : Path (p ++ [c]) := by
  induction path with
  | @segment s segment =>
    refine .segment (segment_of_accepted (by simp) ?_)
    intro d inside
    obtain old | new := List.mem_append.mp inside
    · exact segment.accepted d old
    · rwa [List.mem_singleton.mp new]
  | dotted segment path ih =>
    rw [List.append_assoc, List.cons_append]
    exact .dotted segment ih

theorem Path.letter (letter : isSegmentChar c = true) : Path [c] :=
  .segment (segment_of_accepted (by simp) (by simpa using letter))

theorem pathTail_letters (letters : ∀ c ∈ s, isSegmentChar c = true) (rest found : List Char) :
    pathTail (s ++ rest) found = pathTail rest (s.reverse ++ found) := by
  induction s generalizing found with
  | nil => rfl
  | cons c s ih =>
    obtain ⟨letter, letters⟩ := List.forall_mem_cons.mp letters
    rw [List.cons_append, pathTail, if_pos letter, ih letters]
    simp

theorem pathTail_dot (opens : opens rest = true) (found : List Char) :
    pathTail ('.' :: rest) found = pathTail rest ('.' :: found) := by
  have dot : isSegmentChar '.' = false := by decide
  have follows : ('.' = '.' && (rest.head?.map isSegmentChar).getD false) = true := by
    simpa [FieldName.opens] using opens
  rw [pathTail, dot, if_neg (by simp), if_pos follows]

/-- A path is taken as a whole, whatever follows it. -/
theorem Path.pathTail (path : Path p) (rest found : List Char) :
    pathTail (p ++ rest) found = FieldName.pathTail rest (p.reverse ++ found) := by
  induction path generalizing found with
  | segment segment => exact pathTail_letters segment.accepted rest found
  | @dotted s p segment path ih =>
    rw [List.append_assoc, pathTail_letters segment.accepted, List.cons_append,
      pathTail_dot (path.opens rest), ih]
    simp

theorem Stops.pathTail (stops : Stops rest) (found : List Char) :
    pathTail rest found = (found.reverse, rest) := by
  cases rest with
  | nil => rfl
  | cons c tail =>
    have other : isSegmentChar c = false := stops.segment
    have ends : (c = '.' && (tail.head?.map isSegmentChar).getD false) = false := by
      by_cases dot : c = '.'
      · have closed := stops.dot tail (by rw [dot])
        simpa [dot, opens] using closed
      · simp [dot]
    rw [FieldName.pathTail, other, if_neg (by simp), ends, if_neg (by simp)]

/-- What was found so far is a path, or lacks a segment that is about to follow. -/
inductive Ready (found chars : List Char) : Prop where
  | path : Path found.reverse → Ready found chars
  | start : found = [] → opens chars = true → Ready found chars
  | dot : Path p → found.reverse = p ++ ['.'] → opens chars = true → Ready found chars

theorem Ready.letter (ready : Ready found (c :: rest)) (letter : isSegmentChar c = true) :
    Path (c :: found).reverse := by
  rw [List.reverse_cons]
  cases ready with
  | path path => exact path.concat letter
  | start none _ => simpa [none] using Path.letter letter
  | dot path split _ =>
    rw [split, List.append_assoc]
    exact path.dot (.letter letter)

theorem Ready.done (ready : Ready found chars) (closed : opens chars = false) :
    Path found.reverse := by
  cases ready with
  | path path => exact path
  | start _ opens => cases closed.symm.trans opens
  | dot _ _ opens => cases closed.symm.trans opens

theorem Ready.pathTail (ready : Ready found chars) :
    Path (pathTail chars found).1 ∧ Stops (FieldName.pathTail chars found).2 := by
  induction chars generalizing found with
  | nil =>
    refine ⟨ready.done rfl, rfl, ?_⟩
    intro tail nothing
    cases nothing
  | cons c rest ih =>
    unfold FieldName.pathTail
    split
    · rename_i letter
      exact ih (.path (ready.letter letter))
    · rename_i other
      have closed : FieldName.opens (c :: rest) = false := by simpa [FieldName.opens] using other
      have path := ready.done closed
      split
      · rename_i follows
        obtain ⟨rfl, opens⟩ : c = '.' ∧ FieldName.opens rest = true := by
          simpa [FieldName.opens] using follows
        exact ih (.dot path (List.reverse_cons ..) opens)
      · rename_i ends
        refine ⟨path, closed, ?_⟩
        intro tail dot
        cases dot
        simpa [FieldName.opens] using ends

theorem takePath_sound (taken : takePath chars = some (p, rest)) : Path p ∧ Stops rest := by
  unfold takePath at taken
  split at taken
  · rename_i opens
    have ready : Ready [] chars := .start rfl opens
    have sound := ready.pathTail
    rwa [Option.some.inj taken] at sound
  · cases taken

theorem takePath_of_opens (opens : opens chars = true) :
    takePath chars = some (pathTail chars []) :=
  if_pos opens

theorem takePath_complete (path : Path p) (stops : Stops rest) :
    takePath (p ++ rest) = some (p, rest) := by
  rw [takePath_of_opens (path.opens rest), path.pathTail, stops.pathTail]
  simp

theorem pathTail_prefix (chars found : List Char) : found.reverse <+: (pathTail chars found).1 := by
  induction chars generalizing found with
  | nil => exact List.prefix_rfl
  | cons c rest ih =>
    have longer : found.reverse <+: (c :: found).reverse := by simp
    unfold pathTail
    split
    · exact longer.trans (ih (c :: found))
    · split
      · exact longer.trans (ih (c :: found))
      · exact List.prefix_rfl

/-- No path at the start of a text is longer than the one that is taken. -/
theorem takePath_longest (taken : takePath chars = some (p, rest)) (path : Path q)
    (starts : q <+: chars) : q <+: p := by
  obtain ⟨tail, rfl⟩ := starts
  have longer := pathTail_prefix tail (q.reverse ++ [])
  rw [takePath_of_opens (path.opens tail), path.pathTail] at taken
  rw [Option.some.inj taken] at longer
  simpa using longer

end Paths

/-! ## Names -/

section Names
variable {chars rest left start p a : List Char} {f g : FieldName} {text : String}

theorem isArgumentChar_iff {c : Char} : isArgumentChar c = true ↔ c ≠ '[' ∧ c ≠ ']' := by
  simp only [isArgumentChar, Bool.and_eq_true, bne_iff_ne]

theorem takeArgument_sound (taken : takeArgument chars = some (a, left)) : Argument a := by
  unfold takeArgument at taken
  split at taken
  · rename_i inner
    dsimp only at taken
    split at taken
    · split at taken
      · cases taken
      · rename_i nonempty
        cases taken
        refine ⟨by simpa using nonempty, ?_⟩
        intro c inside
        exact isArgumentChar_iff.mp (List.all_eq_true.mp List.all_takeWhile c inside)
    · cases taken
  · cases taken

theorem Argument.taken (argument : Argument a) (left : List Char) :
    takeArgument ('[' :: (a ++ ']' :: left)) = some (a, left) := by
  have accepted : ∀ c ∈ a, isArgumentChar c = true :=
    fun c inside => isArgumentChar_iff.mpr (argument.unbracketed c inside)
  have closing : isArgumentChar ']' = false := by decide
  have run : (a ++ ']' :: left).takeWhile isArgumentChar = a := by
    rw [List.takeWhile_append_of_pos accepted, List.takeWhile_cons, closing]
    simp
  simp [takeArgument, run, argument.nonempty]

/-- A path ends where a bracket opens. -/
theorem stops_bracket (rest : List Char) : Stops ('[' :: rest) := by
  refine ⟨by simp [opens]; decide, ?_⟩
  intro tail dot
  cases dot

/-- The longest field name that characters begin with, and what is left. -/
structure Takes (chars start left : List Char) (f : FieldName) : Prop where
  split : start ++ left = chars
  spells : Spells start f
  longest : ∀ other g, Spells other g → other <+: chars → other <+: start

/-- A name without brackets is no longer than the path that is taken; the path of one with brackets is
the path that is taken. -/
theorem Spells.within (spells : Spells start f) (starts : start <+: chars)
    (taken : takePath chars = some (p, rest)) :
    start <+: p ∨ ∃ a left, takeArgument rest = some (a, left) ∧ start = p ++ '[' :: (a ++ [']']) := by
  cases spells with
  | bare path => exact .inl (takePath_longest taken path starts)
  | @bracketed q a path argument =>
    right
    obtain ⟨left, rfl⟩ := starts
    have whole : q ++ '[' :: (a ++ [']']) ++ left = q ++ '[' :: (a ++ ']' :: left) := by simp
    rw [whole, takePath_complete path (stops_bracket _)] at taken
    cases taken
    exact ⟨a, left, argument.taken left, rfl⟩

theorem takes_bare (taken : takePath chars = some (p, rest)) (bare : takeArgument rest = none) :
    Takes chars p rest ⟨String.ofList p, none⟩ where
  split := takePath_append taken
  spells := .bare (takePath_sound taken).1
  longest other g spells starts := by
    obtain within | ⟨a, left, bracketed, _⟩ := spells.within starts taken
    · exact within
    · cases bare.symm.trans bracketed

theorem takes_bracketed (taken : takePath chars = some (p, rest))
    (bracketed : takeArgument rest = some (a, left)) :
    Takes chars (p ++ '[' :: (a ++ [']'])) left ⟨String.ofList p, some (String.ofList a)⟩ where
  split := by
    rw [← takePath_append taken, ← takeArgument_append bracketed]
    simp
  spells := .bracketed (takePath_sound taken).1 (takeArgument_sound bracketed)
  longest other g spells starts := by
    obtain within | ⟨a', left', same, rfl⟩ := spells.within starts taken
    · exact within.trans (List.prefix_append _ _)
    · cases bracketed.symm.trans same
      exact List.prefix_rfl

/-- Characters begin with no field name, or with one that is the longest; reading accepts them if
nothing is left of them. -/
theorem read_cases (chars : List Char) :
    ((∀ start f, Spells start f → ¬ start <+: chars) ∧
      read chars = .error (.stopped chars chars)) ∨
    ∃ start left f, Takes chars start left f ∧
      read chars = if left.isEmpty then .ok f else .error (.stopped chars left) := by
  cases taken : takePath chars with
  | none =>
    left
    refine ⟨?_, by simp only [read, taken]⟩
    rintro start f spells ⟨tail, rfl⟩
    have opened : opens (start ++ tail) = true := by
      cases spells with
      | bare path => exact path.opens tail
      | bracketed path _ =>
        rw [List.append_assoc]
        exact path.opens _
    cases taken.symm.trans (takePath_of_opens opened)
  | some found =>
    obtain ⟨p, rest⟩ := found
    right
    cases bracketed : takeArgument rest with
    | none =>
      refine ⟨_, _, _, takes_bare taken bracketed, ?_⟩
      simp only [read, taken, bracketed]
      rfl
    | some inner =>
      obtain ⟨a, left⟩ := inner
      refine ⟨_, _, _, takes_bracketed taken bracketed, ?_⟩
      simp only [read, taken, bracketed]
      rfl

theorem Spells.read (spells : Spells chars f) : read chars = .ok f := by
  cases spells with
  | bare path =>
    have ends : Stops [] := ⟨rfl, fun _ dot => by cases dot⟩
    have taken := takePath_complete path ends
    rw [List.append_nil] at taken
    simp [FieldName.read, taken, takeArgument]
  | @bracketed p a path argument =>
    have taken := takePath_complete path (stops_bracket (a ++ [']']))
    simp [FieldName.read, taken, argument.taken []]

theorem read_eq_ok_iff : read chars = .ok f ↔ Spells chars f := by
  constructor
  · intro accepted
    obtain ⟨_, refused⟩ | ⟨start, left, g, takes, answer⟩ := read_cases chars
    · cases refused.symm.trans accepted
    · rw [answer] at accepted
      split at accepted
      · rename_i nothing
        cases accepted
        have whole := takes.split
        rw [List.isEmpty_iff.mp nothing, List.append_nil] at whole
        exact whole ▸ takes.spells
      · cases accepted
  · exact Spells.read

theorem parse_eq_ok_iff : parse text = .ok f ↔ Spells text.toList f :=
  read_eq_ok_iff

theorem WellFormed.spells (valid : f.WellFormed) : Spells f.text.toList f := by
  obtain ⟨path, argument⟩ := f
  cases argument with
  | none =>
    have spells := Spells.bare valid.path
    rwa [String.ofList_toList] at spells
  | some a =>
    have spells := Spells.bracketed valid.path (valid.argument a rfl)
    simpa [FieldName.text] using spells

theorem Spells.wellFormed (spells : Spells chars f) : f.WellFormed := by
  cases spells with
  | bare path => exact ⟨by simpa using path, by simp⟩
  | bracketed path argument => exact ⟨by simpa using path, by simpa using argument⟩

/-- Field names are read exactly from the texts of the grammar, as the parts that they are written with.
They are written as they were read, and what can be written is read back, so that no two of them are
written alike. -/
theorem parses_exactly :
    (∀ text f, parse text = .ok f ↔ Spells text.toList f) ∧
    (∀ text f, parse text = .ok f → f.WellFormed ∧ f.text = text) ∧
    (∀ f : FieldName, f.WellFormed → parse f.text = .ok f) ∧
    ∀ f g : FieldName, f.WellFormed → g.WellFormed → f.text = g.text → f = g := by
  have back : ∀ f : FieldName, f.WellFormed → parse f.text = .ok f :=
    fun f valid => parse_eq_ok_iff.mpr valid.spells
  refine ⟨fun text f => parse_eq_ok_iff, ?_, back, ?_⟩
  · intro text f accepted
    exact ⟨(parse_eq_ok_iff.mp accepted).wellFormed, text_of_parse accepted⟩
  · intro f g valid valid' same
    have read := back f valid
    rw [same, back g valid'] at read
    exact (Except.ok.inj read).symm

/-- An argument may hold what a path may not, and only there. -/
theorem reads_dotted_argument :
    parse "a_1.b[.é]" = .ok ⟨"a_1.b", some ".é"⟩ ∧
      (⟨"a_1.b", some ".é"⟩ : FieldName).WellFormed ∧
      ¬ Spells "a_1.b.[é]".toList ⟨"a_1.b.", some "é"⟩ := by
  obtain ⟨spelled, written, _, _⟩ := parses_exactly
  have read : parse "a_1.b[.é]" = .ok ⟨"a_1.b", some ".é"⟩ := rfl
  refine ⟨read, (written _ _ read).1, ?_⟩
  rw [← spelled]
  intro other
  cases other

/-! ## Faults -/

theorem stopped_eq_unexpected (some : chars ≠ []) (goes : left ≠ []) :
    Fault.stopped chars left = .unexpected (Utf8.width chars - Utf8.width left) := by
  simp [Fault.stopped, some, goes]

theorem Takes.longestStart (takes : Takes text.toList start left f) :
    LongestStart text (Utf8.width start) := by
  have accepted : Begins text (String.ofList start) := by
    constructor
    · rw [String.toList_ofList]
      exact ⟨left, takes.split⟩
    · refine ⟨f, parse_eq_ok_iff.mpr ?_⟩
      rw [String.toList_ofList]
      exact takes.spells
  have bytes : (String.ofList start).utf8ByteSize = Utf8.width start := by
    rw [← Utf8.width_toList, String.toList_ofList]
  rw [← bytes]
  refine .some accepted ?_
  rintro other ⟨starts, g, read⟩
  obtain ⟨more, longer⟩ := takes.longest _ g (parse_eq_ok_iff.mp read) starts
  rw [bytes, ← Utf8.width_toList, ← longer, Utf8.width_append]
  exact Nat.le_add_right _ _

theorem width_pos (some : chars ≠ []) : 0 < Utf8.width chars := by
  cases chars with
  | nil => exact absurd rfl some
  | cons c rest =>
    rw [Utf8.width_cons]
    exact Nat.add_pos_left c.utf8Size_pos _

/-- A text that is no field name, and not empty, is at fault behind its longest start. -/
theorem fault_eq {fault : Fault} (nonempty : text ≠ "") (refused : parse text = .error fault) :
    ∃ p, fault = .unexpected p ∧ LongestStart text p ∧ p < text.utf8ByteSize := by
  have chars : text.toList ≠ [] := by simpa using nonempty
  rw [← Utf8.width_toList]
  obtain ⟨never, answer⟩ | ⟨start, left, f, takes, answer⟩ := read_cases text.toList
  · cases answer.symm.trans refused
    rw [stopped_eq_unexpected chars chars, Nat.sub_self]
    refine ⟨0, rfl, .none ?_, width_pos chars⟩
    rintro start ⟨starts, f, read⟩
    exact never _ f (parse_eq_ok_iff.mp read) starts
  · rw [parse, answer] at refused
    split at refused
    · cases refused
    · rename_i goes
      have goes : left ≠ [] := by simpa using goes
      cases refused
      rw [stopped_eq_unexpected chars goes, ← takes.split, Utf8.width_append, Nat.add_sub_cancel]
      exact ⟨_, rfl, takes.longestStart, Nat.lt_add_of_pos_right (width_pos goes)⟩

/-- What a message begins with tells it from others. -/
theorem message_unexpected_ne {other : String}
    (differs : ¬ "unexpected input at position ".toList <+: other.toList) (p : Nat) :
    (Fault.unexpected p).message ≠ other := by
  intro same
  have message : (Fault.unexpected p).message = "unexpected input at position " ++ toString p := rfl
  rw [← same, message, String.toList_append] at differs
  exact differs (List.prefix_append _ _)

/-- What is told of a text that is no field name: that it is empty, if it is, and else the number of
bytes of the longest field name that it begins with, which is less than all of it. No text just ends
too soon. -/
theorem fault_positions (text : String) (fault : Fault) (refused : parse text = .error fault) :
    (text ≠ "" → ∃ p, fault = .unexpected p ∧
      fault.message = s!"unexpected input at position {p}" ∧ LongestStart text p ∧
      p < text.utf8ByteSize) ∧
    (fault.message = "empty field name" ↔ text = "") ∧
    fault.message ≠ "unexpected end of field name" := by
  by_cases nothing : text = ""
  · subst nothing
    obtain rfl : Fault.empty = fault := Except.error.inj refused
    exact ⟨fun some => absurd rfl some, ⟨fun _ => rfl, fun _ => rfl⟩, by decide⟩
  · obtain ⟨p, rfl, longest, inside⟩ := fault_eq nothing refused
    refine ⟨fun _ => ⟨p, rfl, rfl, longest, inside⟩, ?_, message_unexpected_ne (by decide) p⟩
    simp only [nothing, iff_false]
    exact message_unexpected_ne (by decide) p

/-- The argument and its brackets are read, in seven bytes, but not what follows them. -/
theorem trailing_text_position :
    parse "a.b[é]c" = .error (.unexpected 7) ∧ LongestStart "a.b[é]c" 7 := by
  have refused : parse "a.b[é]c" = .error (.unexpected 7) := rfl
  obtain ⟨p, same, _, longest, _⟩ := (fault_positions _ _ refused).1 (by decide)
  cases same
  exact ⟨refused, longest⟩

end Names

end EventProbe.FieldName
