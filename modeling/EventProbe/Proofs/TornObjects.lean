import EventProbe.Proofs.JsonRoundTrip

/-! A printed object that is cut off anywhere, even in the middle of a lexeme, and followed by another
object is never read: wherever the first one breaks off, the reader fails at once or stops before a
character that may not stand there. -/
namespace EventProbe.Json

/-- A character that may follow no key and no value of an object. -/
def stray (c : Char) : Bool :=
  !(isSpace c || c == ',' || c == ':' || c == '\x7d')

/-- What begins with an object of which a key is begun, after the first characters of others. -/
inductive Intrudes : List Char → Prop where
  | brace : Intrudes rest → Intrudes ('\x7b' :: rest)
  | key : stray c = true → Intrudes ('\x7b' :: '"' :: c :: rest)

/-- A reader that does not fail has stopped before a stray character. -/
def Stumbles (result : Except Fault (α × List Char)) : Prop :=
  ∀ value left, result = .ok (value, left) → ∃ c more, left = c :: more ∧ stray c = true

/-- A reader stumbles over a value that breaks off before another object. -/
def Breaks (read : Reader α) (value : List Char) : Prop :=
  ∀ part rest, part <+: value → Intrudes rest → Stumbles (read (part ++ rest))

def Fails (result : Except ε α) : Prop :=
  ∀ value, result ≠ .ok value

section Strays
variable {c : Char} {rest more : List Char}

theorem Intrudes.head (intrudes : Intrudes rest) : ∃ more, rest = '\x7b' :: more := by
  cases intrudes with
  | brace => exact ⟨_, rfl⟩
  | key => exact ⟨_, rfl⟩

theorem stray_iff : stray c = true ↔ isSpace c = false ∧ c ≠ ',' ∧ c ≠ ':' ∧ c ≠ '\x7d' := by
  simp [stray, and_assoc]

theorem Stumbles.of_error {result : Except Fault (α × List Char)} {fault : Fault}
    (failed : result = .error fault) : Stumbles result := by
  intro value left read
  cases failed.symm.trans read

theorem Stumbles.of_ok {result : Except Fault (α × List Char)} {value : α} (intrudes : Intrudes rest)
    (read : result = .ok (value, rest)) : Stumbles result := by
  intro other left same
  obtain ⟨more, rfl⟩ := intrudes.head
  cases read.symm.trans same
  exact ⟨_, more, rfl, rfl⟩

/-- What is made of the value does not matter. -/
theorem Stumbles.map {result : Except Fault (α × List Char)} (stumbles : Stumbles result) (f : α → β) :
    Stumbles (result.map fun (value, left) => (f value, left)) := by
  intro value left read
  cases result with
  | error fault => cases read
  | ok pair =>
    cases read
    exact stumbles pair.1 pair.2 rfl

end Strays

/-! ## Texts -/

section Texts
variable {rest : List Char}

/-- One character ends a string, is passed over, or is a fault, whatever follows it. -/
theorem stringTail_step (c : Char) (mode : StringMode) (found : List Char) :
    (∃ s, ∀ rest, stringTail (c :: rest) mode found = .ok (s, rest)) ∨
    (∃ mode' found', ∀ rest, stringTail (c :: rest) mode found = stringTail rest mode' found') ∨
    ∀ rest, ∃ fault, stringTail (c :: rest) mode found = .error fault := by
  cases mode with
  | plain =>
    by_cases quote : c = '"'
    · exact .inl ⟨_, fun rest => by rw [stringTail, if_pos quote]⟩
    by_cases backslash : c = '\\'
    · exact .inr (.inl ⟨.escape, found, fun rest => by
        rw [stringTail, if_neg quote, if_pos backslash]⟩)
    by_cases control : c.toNat < 0x20
    · exact .inr (.inr fun rest => ⟨_, by
        rw [stringTail, if_neg quote, if_neg backslash, if_pos control]⟩)
    · exact .inr (.inl ⟨.plain, c :: found, fun rest => by
        rw [stringTail, if_neg quote, if_neg backslash, if_neg control]⟩)
  | escape =>
    by_cases unit : c = 'u'
    · exact .inr (.inl ⟨.unit none 0 0, found, fun rest => by rw [stringTail, if_pos unit]⟩)
    cases short : shortEscape c with
    | some d =>
      exact .inr (.inl ⟨.plain, d :: found, fun rest => by
        rw [stringTail, if_neg unit]
        simp only [short]⟩)
    | none =>
      exact .inr (.inr fun rest => ⟨_, by
        rw [stringTail, if_neg unit]
        simp only [short]
        rfl⟩)
  | unit high count value =>
    cases digit : hexValue c with
    | none =>
      exact .inr (.inr fun rest => ⟨_, by
        rw [stringTail]
        simp only [digit]
        rfl⟩)
    | some d =>
      by_cases more : count < 3
      · exact .inr (.inl ⟨.unit high (count + 1) (value * 16 + d), found, fun rest => by
          rw [stringTail]
          simp only [digit, if_pos more]⟩)
      rcases done : unitDone high (value * 16 + d) with code | ⟨mode, _ | e⟩
      · exact .inr (.inr fun rest => ⟨_, by
          rw [stringTail]
          simp only [digit, if_neg more, done]
          rfl⟩)
      · exact .inr (.inl ⟨mode, found, fun rest => by
          rw [stringTail]
          simp only [digit, if_neg more, done]⟩)
      · exact .inr (.inl ⟨mode, e :: found, fun rest => by
          rw [stringTail]
          simp only [digit, if_neg more, done]⟩)
  | pair high =>
    by_cases backslash : c = '\\'
    · exact .inr (.inl ⟨.pairEscape high, found, fun rest => by rw [stringTail, if_pos backslash]⟩)
    · exact .inr (.inr fun rest => ⟨_, by rw [stringTail, if_neg backslash]⟩)
  | pairEscape high =>
    by_cases unit : c = 'u'
    · exact .inr (.inl ⟨.unit (some high) 0 0, found, fun rest => by rw [stringTail, if_pos unit]⟩)
    · exact .inr (.inr fun rest => ⟨_, by rw [stringTail, if_neg unit]⟩)

/-- A string that has not ended takes in the braces of another object and ends at its first key. -/
theorem stringTail_intruded (intrudes : Intrudes rest) (mode : StringMode) (found : List Char) :
    Stumbles (stringTail rest mode found) := by
  induction intrudes generalizing mode found with
  | brace _ ih =>
    cases mode with
    | plain => exact ih .plain _
    | _ => exact .of_error rfl
  | @key c rest odd =>
    cases mode with
    | plain =>
      intro s left read
      cases read
      exact ⟨c, rest, rfl, odd⟩
    | _ => exact .of_error rfl

/-- Characters end a string by themselves, or another object does not let it end well. -/
theorem stringTail_append (text : List Char) (mode : StringMode) (found : List Char) :
    (∃ s left, ∀ rest, stringTail (text ++ rest) mode found = .ok (s, left ++ rest)) ∨
    ∀ rest, Intrudes rest → Stumbles (stringTail (text ++ rest) mode found) := by
  induction text generalizing mode found with
  | nil => exact .inr fun rest intrudes => stringTail_intruded intrudes mode found
  | cons c text ih =>
    simp only [List.cons_append]
    obtain ⟨s, ends⟩ | ⟨mode', found', goes⟩ | fails := stringTail_step c mode found
    · exact .inl ⟨s, text, fun rest => ends _⟩
    · simp only [goes]
      exact ih mode' found'
    · right
      intro rest _
      obtain ⟨fault, failed⟩ := fails (text ++ rest)
      exact .of_error failed

/-- The part of a printed text before its closing quote does not end it. -/
theorem string_breaks (s : String) : Breaks string (s.toList.flatMap escaped) := by
  rintro part rest ⟨tail, whole⟩ intrudes
  obtain ⟨s', left, ends⟩ | stumbles := stringTail_append part .plain []
  · have closed := string_printed s []
    rw [← whole, List.append_assoc, string, ends] at closed
    simp at closed
  · exact stumbles rest intrudes

theorem readText_breaks (s : String) : Breaks readText (printText s) := by
  intro part rest cut intrudes
  obtain rfl | cut := List.prefix_concat_iff.mp cut
  · exact .of_ok intrudes (readText_printText s rest)
  obtain rfl | ⟨text, rfl, inside⟩ := List.prefix_cons_iff.mp cut
  · obtain ⟨more, rfl⟩ := intrudes.head
    exact .of_error rfl
  · have opened : readText ('"' :: text ++ rest) = string (text ++ rest) := by
      rw [List.cons_append, readText, readTextAs, skipSpace_of_not_space rfl]
      cases answer : string (text ++ rest) <;> simp only [answer]
    rw [opened]
    exact string_breaks s text rest inside intrudes

end Texts

/-! ## Numbers -/

section Numbers
variable {digits rest more : List Char}

theorem wordDigits_left (all : ∀ c ∈ digits, isDigit c = true) (n count : Nat) (more : List Char) :
    ∃ n' count' left, wordDigits n count (digits ++ '{' :: more) =
      (n', count', left ++ '{' :: more) ∧ ∀ c ∈ left, isDigit c = true := by
  induction digits generalizing n count with
  | nil => exact ⟨n, count, [], rfl, by simp⟩
  | cons c digits ih =>
    rw [List.cons_append, wordDigits]
    split
    · exact ih (List.forall_mem_cons.mp all).2 _ _
    · exact ⟨n, count, c :: digits, rfl, all⟩

theorem skipDigits_append (all : ∀ c ∈ digits, isDigit c = true) :
    skipDigits (digits ++ '{' :: more) = '{' :: more := by
  rw [skipDigits, List.dropWhile_append_of_pos all]
  rfl

theorem realTail_left {negative : Bool} {significand : Nat} {exponent : Int} {value : Number}
    (read : realTail negative significand exponent ('{' :: more) = .ok (value, rest)) :
    rest = '{' :: more := by
  have plain : realTail negative significand exponent ('{' :: more) =
      realNumber negative significand exponent ('{' :: more) := rfl
  rw [plain, realNumber] at read
  split at read
  · cases read
    rfl
  · cases read

/-- A number ends where the digits do. -/
theorem number_left {value : Number} (all : ∀ c ∈ digits, isDigit c = true)
    (read : number false (digits ++ '{' :: more) = .ok (value, rest)) : rest = '{' :: more := by
  cases digits with
  | nil => cases read
  | cons d digits =>
    obtain ⟨first, later⟩ := List.forall_mem_cons.mp all
    rw [List.cons_append] at read
    unfold number at read
    split at read
    · contradiction
    · rename_i tail split
      cases split
      cases digits with
      | nil =>
        cases read
        rfl
      | cons c digits =>
        have another : digitNext (c :: digits ++ '{' :: more) = true :=
          (List.forall_mem_cons.mp later).1
        rw [if_pos another] at read
        cases read
    · rename_i c _ _ split
      cases split
      obtain ⟨significand, count, left, taken, unread⟩ := wordDigits_left all 0 0 more
      rw [if_pos first, ← List.cons_append, taken] at read
      dsimp only at read
      split at read
      · -- The number does not fit in a word.
        rw [skipDigits_append unread] at read
        exact realTail_left read
      · rename_i ended
        cases left with
        | nil =>
          cases read
          rfl
        | cons c left => exact absurd (List.forall_mem_cons.mp unread).1 ended

theorem readNumber_number {expected : String} {convert : Number → Except Code α} {d : Char} {value : α}
    {left : List Char} (digit : isDigit d = true)
    (read : readNumber expected convert (d :: rest) = .ok (value, left)) :
    ∃ n, number false (d :: rest) = .ok (n, left) := by
  unfold readNumber at read
  rw [skipSpace_of_not_space (not_space_of_digit digit)] at read
  dsimp only at read
  split at read
  · contradiction
  · rename_i _ _ minus
    cases minus
    cases digit
  · rename_i _ _ _ split
    cases split
    rw [if_pos digit] at read
    split at read
    · cases read
    · rename_i n left' taken
      split at read
      · cases read
        exact ⟨n, taken⟩
      · cases read

theorem readNatural_breaks (expected : String) (limit n : Nat) :
    Breaks (readNatural expected limit) (printNatural n) := by
  intro part rest cut intrudes
  obtain ⟨more, rfl⟩ := intrudes.head
  have all : ∀ c ∈ part, isDigit c = true := fun c inside =>
    isDigit_of_mem_printNatural (cut.subset inside)
  cases part with
  | nil => exact .of_error rfl
  | cons d digits =>
    intro value left read
    obtain ⟨n, taken⟩ := readNumber_number (all d List.mem_cons_self) read
    exact ⟨_, more, number_left all taken, rfl⟩

end Numbers

/-! ## Objects -/

section Objects
variable {l : Layout σ α} {draft draft' : σ} {key : String} {value rest input text : List Char}
  {parts : List (String × List Char)} {first : Bool} {c : Char}

theorem prefix_append_cases {before after : List Char} (cut : text <+: before ++ after) :
    text <+: before ∨ ∃ c more, text = before ++ c :: more ∧ c :: more <+: after := by
  obtain short | ⟨tail, rfl⟩ := List.prefix_or_prefix_of_prefix cut (List.prefix_append before after)
  · exact .inl short
  · cases tail with
    | nil => exact .inl (by simp)
    | cons c more => exact .inr ⟨c, more, rfl, (List.prefix_append_right_inj before).mp cut⟩

theorem readMembers_stray (odd : stray c = true) (steps : Nat) :
    Fails (readMembers l steps false draft (c :: rest)) := by
  obtain ⟨dark, comma, _, brace⟩ := stray_iff.mp odd
  cases steps with
  | zero => exact fun _ read => nomatch read
  | succ steps =>
    have failed : ∃ fault, nextKey false (c :: rest) = .error fault := by
      unfold nextKey
      rw [skipSpace_of_not_space dark]
      dsimp only
      split
      · contradiction
      · rename_i same
        cases same
        contradiction
      · rename_i same
        cases same
        simp only [Bool.false_eq_true, if_false, if_neg comma]
        exact ⟨_, rfl⟩
    obtain ⟨fault, failed⟩ := failed
    intro result read
    rw [readMembers, failed] at read
    cases read

theorem skipColon_stray (odd : stray c = true) (rest : List Char) :
    ∃ fault, skipColon (c :: rest) = .error fault := by
  obtain ⟨dark, _, colon, _⟩ := stray_iff.mp odd
  unfold skipColon
  rw [skipSpace_of_not_space dark]
  split
  · contradiction
  · rename_i same
    cases same
    contradiction
  · exact ⟨_, rfl⟩

/-- A key before a stray character is of no use, whether it is known or not. -/
theorem readMembers_stray_key (named : nextKey first input = .ok (some key, c :: rest))
    (odd : stray c = true) (steps : Nat) : Fails (readMembers l steps first draft input) := by
  obtain ⟨fault, failed⟩ := skipColon_stray odd rest
  cases steps with
  | zero => exact fun _ read => nomatch read
  | succ steps =>
    intro result read
    rw [readMembers, named] at read
    simp only [failed, Except.bind] at read
    split at read
    · split at read <;> cases read
    · split at read <;> cases read

theorem readMembers_fault {fault : Fault} (failed : nextKey first input = .error fault) (steps : Nat) :
    Fails (readMembers l steps first draft input) := by
  intro result read
  cases steps with
  | zero => cases read
  | succ steps =>
    rw [readMembers, failed] at read
    cases read

/-- A value that breaks off takes the object with it. -/
theorem readMembers_torn_value {m : Member σ} (intrudes : Intrudes rest)
    (named : nextKey first input = .ok (some key, ':' :: (text ++ rest)))
    (found : l.members.find? (·.name == key) = some m) (breaks : Breaks (m.read draft) value)
    (cut : text <+: value) (steps : Nat) : Fails (readMembers l steps first draft input) := by
  cases steps with
  | zero => exact fun _ read => nomatch read
  | succ steps =>
    intro result read
    have colon : skipColon (':' :: (text ++ rest)) = .ok (text ++ rest) := rfl
    rw [readMembers, named] at read
    simp only [found, colon, Except.bind] at read
    split at read
    · cases read
    · split at read
      · cases read
      · rename_i draft' left taken
        obtain ⟨c, more, rfl, odd⟩ := breaks text rest cut intrudes draft' left taken
        exact readMembers_stray odd steps _ read

theorem delimited_of_cut {c : Char} {more : List Char} (cut : c :: more <+: printLater parts)
    (rest : List Char) : Delimited (c :: more ++ rest) := by
  cases parts with
  | nil => cases List.prefix_nil.mp cut
  | cons part parts =>
    rw [printLater, List.flatMap_cons] at cut
    exact .cons (.inl (List.cons_prefix_cons.mp cut).1)

/-- A member that breaks off, or after which another one does. -/
theorem readMembers_torn_member {m : Member σ} (intrudes : Intrudes rest)
    (named : nextKey first input = (string (text ++ rest)).map fun (s, left) => (some s, left))
    (cut : text <+: key.toList.flatMap escaped ++ '"' :: ':' :: (value ++ printLater parts))
    (found : l.members.find? (·.name == key) = some m) (fresh : m.given draft = false)
    (breaks : Breaks (m.read draft) value)
    (reads : ∀ left, Delimited left → m.read draft (value ++ left) = .ok (draft', left))
    (later : ∀ more steps, more <+: printLater parts →
      Fails (readMembers l steps false draft' (more ++ rest))) (steps : Nat) :
    Fails (readMembers l steps first draft input) := by
  obtain short | ⟨_, closed, rfl, behind⟩ := prefix_append_cases cut
  · have stumbles := string_breaks key text rest short intrudes
    cases result : string (text ++ rest) with
    | error fault =>
      rw [result] at named
      exact readMembers_fault named steps
    | ok pair =>
      rw [result] at named
      obtain ⟨c, more, split, odd⟩ := stumbles pair.1 pair.2 result
      simp only [Except.map, split] at named
      exact readMembers_stray_key named odd steps
  · obtain ⟨rfl, colon⟩ := List.cons_prefix_cons.mp behind
    rw [List.append_assoc, List.cons_append, string_printed] at named
    obtain rfl | ⟨shown, rfl, valued⟩ := List.prefix_cons_iff.mp colon
    · obtain ⟨more, rfl⟩ := intrudes.head
      exact readMembers_stray_key named rfl steps
    obtain short | ⟨c, more, rfl, others⟩ := prefix_append_cases valued
    · exact readMembers_torn_value intrudes named found breaks short steps
    · cases steps with
      | zero => exact fun _ read => nomatch read
      | succ steps =>
        have split : nextKey first input =
            .ok (some key, ':' :: (value ++ (c :: more ++ rest))) := by
          rw [named]
          simp [Except.map]
        rw [readMembers_member split found fresh (reads _ (delimited_of_cut others rest))]
        exact later _ steps others

/-- Each value of some members breaks, whatever was read before it. -/
def AllBreak (l : Layout σ α) (parts : List (String × List Char)) : Prop :=
  ∀ part ∈ parts, ∀ m draft, l.members.find? (·.name == part.1) = some m →
    Breaks (m.read draft) part.2

theorem Fills.torn_later (fills : Fills l draft parts draft') (breaks : AllBreak l parts)
    (intrudes : Intrudes rest) (cut : text <+: printLater parts) (steps : Nat) :
    Fails (readMembers l steps false draft (text ++ rest)) := by
  induction fills generalizing text steps with
  | nil =>
    obtain rfl := List.prefix_nil.mp cut
    obtain ⟨more, rfl⟩ := intrudes.head
    exact readMembers_stray rfl steps
  | @cons key m draft value draft'' parts last found fresh reads _ ih =>
    obtain ⟨here, later⟩ := List.forall_mem_cons.mp breaks
    have printed : printLater ((key, value) :: parts) =
        ',' :: '"' :: (key.toList.flatMap escaped ++ '"' :: ':' :: (value ++ printLater parts)) := by
      simp [printLater, printText]
    rw [printed] at cut
    obtain rfl | ⟨opened, rfl, quote⟩ := List.prefix_cons_iff.mp cut
    · obtain ⟨more, rfl⟩ := intrudes.head
      exact readMembers_stray rfl steps
    obtain rfl | ⟨text, rfl, inside⟩ := List.prefix_cons_iff.mp quote
    · obtain ⟨more, rfl⟩ := intrudes.head
      exact readMembers_fault rfl steps
    · exact readMembers_torn_member intrudes rfl inside found fresh (here m draft found) reads
        (fun more steps behind => ih later behind steps) steps

theorem Fills.torn_first (fills : Fills l draft parts draft') (breaks : AllBreak l parts)
    (some : parts ≠ []) (intrudes : Intrudes rest) (cut : text <+: printMembers parts) (steps : Nat) :
    Fails (readMembers l steps true draft (text ++ rest)) := by
  cases fills with
  | nil => exact absurd rfl some
  | @cons key m _ value draft'' parts _ found fresh reads fills =>
    obtain ⟨here, later⟩ := List.forall_mem_cons.mp breaks
    have printed : printMembers ((key, value) :: parts) =
        '"' :: (key.toList.flatMap escaped ++ '"' :: ':' :: (value ++ printLater parts)) := by
      simp [printMembers_cons, printText]
    rw [printed] at cut
    obtain rfl | ⟨text, rfl, inside⟩ := List.prefix_cons_iff.mp cut
    · obtain ⟨more, rfl⟩ := intrudes.head
      exact readMembers_fault rfl steps
    · exact readMembers_torn_member intrudes rfl inside found fresh (here m draft found) reads
        (fun more steps behind => fills.torn_later later intrudes behind steps) steps

/-- A printed record that breaks off somewhere, and is followed by another one, is not read. -/
theorem decode_torn {whole : α} (fills : Fills l l.start parts draft)
    (finished : l.finish draft = .ok whole) (breaks : AllBreak l parts) (some : parts ≠ [])
    (begun : text ≠ []) (cut : text <+: printObject parts) (intrudes : Intrudes rest) :
    Fails (decode (readRecord l) (String.ofList (text ++ rest))) := by
  have failed : Fails (decodeChars (readRecord l) (text ++ rest)) := by
    intro value read
    obtain rfl | short := List.prefix_concat_iff.mp cut
    · -- The object is whole, and something follows it.
      obtain ⟨more, rfl⟩ := intrudes.head
      unfold decodeChars at read
      have object := readRecord_printObject fills finished ('\x7b' :: more)
      rw [printObject] at object
      rw [object] at read
      cases read
    · obtain rfl | ⟨text, rfl, inside⟩ := List.prefix_cons_iff.mp short
      · exact absurd rfl begun
      · have torn := fills.torn_first breaks some intrudes inside ((text ++ rest).length + 1)
        have opened : readRecord l ('\x7b' :: (text ++ rest)) = closeRecord l endObject leaveObject
            (readMembers l ((text ++ rest).length + 1) true l.start (text ++ rest)) := by
          rw [readRecord, skipSpace_of_not_space rfl]
          rfl
        rw [decodeChars, List.cons_append, opened] at read
        cases members : readMembers l ((text ++ rest).length + 1) true l.start (text ++ rest) with
        | error stop =>
          rw [members] at read
          cases stop <;> cases read
        | ok result => exact torn result members
  intro value read
  unfold decode at read
  rw [String.toList_ofList] at read
  cases result : decodeChars (readRecord l) (text ++ rest) with
  | error fault =>
    rw [result] at read
    cases read
  | ok value => exact failed value result

end Objects

end EventProbe.Json
