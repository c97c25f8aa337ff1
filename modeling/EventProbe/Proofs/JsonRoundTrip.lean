import EventProbe.Json.Decode
import EventProbe.Json.Print

/-! Readers give back what was printed. A text comes back from its escaped characters, a number from
its digits unless more of a number follows, and a record from its members in any order that fills the
draft. What follows a printed value is left unread. -/
namespace EventProbe.Json

theorem skipSpace_of_not_space {c : Char} (dark : isSpace c = false) (rest : List Char) :
    skipSpace (c :: rest) = c :: rest := by
  rw [skipSpace, List.dropWhile_cons, if_neg (Bool.eq_false_iff.mp dark)]

/-! ## Texts -/

section Texts
variable {rest : List Char}

theorem hexValue_digitChar {n : Nat} (small : n < 16) : hexValue (Nat.digitChar n) = some n := by
  revert n
  decide

theorem stringTail_control {c : Char} (control : c.toNat < 0x20) (rest found : List Char) :
    stringTail ('\\' :: 'u' :: '0' :: '0' :: (controlDigits c.toNat ++ rest)) .plain found =
      stringTail rest .plain (c :: found) := by
  have high := hexValue_digitChar (n := c.toNat / 16) (by omega)
  have low := hexValue_digitChar (n := c.toNat % 16) (by omega)
  have value : ((0 * 16 + 0) * 16 + 0) * 16 + c.toNat / 16 = c.toNat / 16 := by omega
  have whole : c.toNat / 16 * 16 + c.toNat % 16 = c.toNat := by omega
  have zero : hexValue '0' = some 0 := rfl
  simp only [controlDigits, List.cons_append, List.nil_append, stringTail, zero, high, low]
  simp only [Char.reduceEq, if_true, if_false, Nat.reduceLT, Nat.reduceAdd, value, whole, unitDone]
  rw [if_neg (by omega), if_neg (by omega), Char.ofNat_toNat]

/-- A printed character is read as itself. -/
theorem stringTail_escaped (c : Char) (rest found : List Char) :
    stringTail (escaped c ++ rest) .plain found = stringTail rest .plain (c :: found) := by
  unfold escaped
  split
  -- All but the last case are characters with an escape of their own, which is read by computing.
  case h_8 quote backslash _ _ _ _ _ =>
    split
    · rename_i control
      exact stringTail_control control rest found
    · rename_i shown
      rw [List.singleton_append, stringTail, if_neg quote, if_neg backslash, if_neg shown]
  all_goals rfl

theorem stringTail_printed (chars rest found : List Char) :
    stringTail (chars.flatMap escaped ++ '"' :: rest) .plain found =
      .ok (String.ofList (found.reverse ++ chars), rest) := by
  induction chars generalizing found with
  | nil => rw [List.flatMap_nil, List.nil_append, stringTail, if_pos rfl, List.append_nil]
  | cons c chars ih =>
    rw [List.flatMap_cons, List.append_assoc, stringTail_escaped, ih, List.reverse_cons,
      List.append_assoc, List.singleton_append]

theorem string_printed (s : String) (rest : List Char) :
    string (s.toList.flatMap escaped ++ '"' :: rest) = .ok (s, rest) := by
  rw [string, stringTail_printed, List.reverse_nil, List.nil_append, String.ofList_toList]

theorem printText_append (s : String) (rest : List Char) :
    printText s ++ rest = '"' :: (s.toList.flatMap escaped ++ '"' :: rest) := by
  simp only [printText, List.cons_append, List.append_assoc, List.nil_append]

theorem readTextAs_printText {expected : String} {convert : String → Except Code α} {value : α}
    {s : String} (converts : convert s = .ok value) (rest : List Char) :
    readTextAs expected convert (printText s ++ rest) = .ok (value, rest) := by
  rw [printText_append, readTextAs, skipSpace_of_not_space rfl]
  simp only [string_printed, converts]

theorem readText_printText (s : String) (rest : List Char) :
    readText (printText s ++ rest) = .ok (s, rest) :=
  readTextAs_printText rfl rest

end Texts

/-! ## Numbers -/

/-- What may follow a value: nothing, or what separates or ends values. -/
inductive Delimited : List Char → Prop where
  | nil : Delimited []
  | cons : c = ',' ∨ c = ']' ∨ c = '\x7d' → Delimited (c :: rest)

section Numbers
variable {n limit : Nat} {digits rest : List Char}

theorem Delimited.not_digit (ended : Delimited rest) : digitNext rest = false := by
  cases ended with
  | nil => rfl
  | cons sep => obtain rfl | rfl | rfl := sep <;> rfl

theorem le_ofDigitChars (digits : List Char) (n : Nat) : n ≤ Nat.ofDigitChars 10 digits n := by
  induction digits generalizing n with
  | nil => exact Nat.le_refl n
  | cons c digits ih =>
    have later := ih (10 * n + (c.toNat - '0'.toNat))
    rw [Nat.ofDigitChars_cons]
    omega

/-- Digits are all read if the number they make fits in a word. -/
theorem wordDigits_append (all : ∀ c ∈ digits, isDigit c = true)
    (fits : Nat.ofDigitChars 10 digits n < wordLimit) (ended : digitNext rest = false) (count : Nat) :
    wordDigits n count (digits ++ rest) =
      (Nat.ofDigitChars 10 digits n, count + digits.length, rest) := by
  induction digits generalizing n count with
  | nil =>
    cases rest with
    | nil => rfl
    | cons c rest =>
      have other : isDigit c = false := ended
      rw [List.nil_append, wordDigits, if_neg (by simp [other])]
      rfl
  | cons c digits ih =>
    obtain ⟨here, later⟩ := List.forall_mem_cons.mp all
    rw [Nat.ofDigitChars_cons] at fits ⊢
    have same : 10 * n + (c.toNat - '0'.toNat) = n * 10 + (c.toNat - 48) := by
      rw [Nat.mul_comm]
      rfl
    rw [same] at fits ⊢
    -- The number grows from digit to digit, so it stays in a word up to here too.
    have partly := le_ofDigitChars digits (n * 10 + (c.toNat - 48))
    rw [List.cons_append, wordDigits, if_pos ⟨here, by omega⟩, ih later fits, List.length_cons]
    simp only [Nat.add_assoc, Nat.add_comm 1]

theorem isDigit_of_mem_printNatural {c : Char} (shown : c ∈ printNatural n) :
    isDigit c = true := by
  have digit := Nat.isDigit_of_mem_toDigits (by decide) (by decide) shown
  simpa [Char.isDigit, isDigit, Char.le_def] using digit

/-- Only zero is printed with a zero in front. -/
theorem printNatural_head (positive : 0 < n) : ∃ c digits, printNatural n = c :: digits ∧ c ≠ '0' := by
  induction n using Nat.strongRecOn with
  | _ n ih =>
    unfold printNatural at ih ⊢
    by_cases small : n < 10
    · rw [Nat.toDigits_of_lt_base small]
      have other : ∀ n < 10, 0 < n → Nat.digitChar n ≠ '0' := by decide
      exact ⟨_, [], rfl, other n small positive⟩
    · obtain ⟨c, digits, shown, other⟩ := ih (n / 10) (by omega) (by omega)
      rw [Nat.toDigits_of_base_le (by decide) (by omega), shown]
      exact ⟨c, _, rfl, other⟩

theorem numberTail_delimited (ended : Delimited rest) :
    numberTail false n rest = .ok (.natural n, rest) := by
  cases ended with
  | nil => rfl
  | cons sep => obtain rfl | rfl | rfl := sep <;> rfl

theorem number_printNatural (fits : n < wordLimit) (ended : Delimited rest) :
    number false (printNatural n ++ rest) = .ok (.natural n, rest) := by
  by_cases positive : 0 < n
  · obtain ⟨c, digits, shown, other⟩ := printNatural_head positive
    have value : Nat.ofDigitChars 10 (printNatural n) 0 = n := Nat.ofDigitChars_ten_toDigits
    have all : ∀ c ∈ printNatural n, isDigit c = true := fun c => isDigit_of_mem_printNatural
    have read := wordDigits_append all (by rw [value]; exact fits) ended.not_digit 0
    rw [value] at read
    rw [shown] at read all ⊢
    rw [List.cons_append] at read ⊢
    unfold number
    split
    · contradiction
    · rename_i _ _ zero
      cases zero
      exact absurd rfl other
    · rename_i _ _ _ split
      cases split
      rw [if_pos (all c List.mem_cons_self), read]
      simp only [ended.not_digit, numberTail_delimited ended, Bool.false_eq_true, if_false]
  · obtain rfl : n = 0 := by omega
    have zero : printNatural 0 ++ rest = '0' :: rest := rfl
    rw [zero, number, if_neg (by rw [ended.not_digit]; decide), numberTail_delimited ended]

theorem not_space_of_digit {c : Char} (digit : isDigit c = true) : isSpace c = false := by
  cases spaced : isSpace c with
  | false => rfl
  | true =>
    simp only [isSpace, Bool.or_eq_true, beq_iff_eq, or_assoc] at spaced
    obtain rfl | rfl | rfl | rfl := spaced <;> cases digit

theorem readNatural_printNatural {expected : String} (small : n < limit) (fits : n < wordLimit)
    (ended : Delimited rest) :
    readNatural expected limit (printNatural n ++ rest) = .ok (n, rest) := by
  have read := number_printNatural fits ended
  have some : printNatural n ≠ [] := by
    intro nothing
    have value : Nat.ofDigitChars 10 (printNatural n) 0 = n := Nat.ofDigitChars_ten_toDigits
    rw [nothing] at value
    cases value
    cases nothing
  obtain ⟨c, digits, shown⟩ := List.exists_cons_of_ne_nil some
  have digit : isDigit c = true := isDigit_of_mem_printNatural (n := n) (by simp [shown])
  rw [shown, List.cons_append] at read ⊢
  unfold readNatural readNumber
  rw [skipSpace_of_not_space (not_space_of_digit digit)]
  dsimp only
  split
  · contradiction
  · rename_i _ _ minus
    cases minus
    cases digit
  · rename_i _ _ _ split
    cases split
    simp only [digit, if_true, read, small]

end Numbers

/-! ## Records -/

/-- Members of an object that are read in order into a draft. -/
inductive Fills (l : Layout σ α) : σ → List (String × List Char) → σ → Prop where
  | nil : Fills l draft [] draft
  | cons : l.members.find? (·.name == key) = some m → m.given draft = false →
      (∀ rest, Delimited rest → m.read draft (value ++ rest) = .ok (draft', rest)) →
      Fills l draft' parts last → Fills l draft ((key, value) :: parts) last

section Records
variable {l : Layout σ α} {draft draft' : σ} {key : String} {value rest input : List Char}
  {parts : List (String × List Char)}

def printLater (parts : List (String × List Char)) : List Char :=
  parts.flatMap fun (key, value) => ',' :: printText key ++ ':' :: value

theorem printMembers_cons (key : String) (value : List Char) (parts : List (String × List Char)) :
    printMembers ((key, value) :: parts) = printText key ++ ':' :: value ++ printLater parts := by
  induction parts generalizing key value with
  | nil => rw [printMembers, printLater, List.flatMap_nil, List.append_nil]
  | cons part parts ih =>
    rw [printMembers, ih part.1 part.2]
    · simp [printLater]
    · simp

theorem length_le_printMembers (parts : List (String × List Char)) :
    parts.length ≤ (printMembers parts).length := by
  have later : ∀ parts, parts.length ≤ (printLater parts).length := by
    intro parts
    induction parts with
    | nil => exact Nat.le_refl _
    | cons part parts ih =>
      simp only [printLater, List.flatMap_cons, List.length_append, List.length_cons] at ih ⊢
      omega
  cases parts with
  | nil => exact Nat.le_refl _
  | cons part parts =>
    have rest := later parts
    rw [printMembers_cons part.1 part.2]
    simp only [List.length_append, List.length_cons]
    omega

theorem delimited_printLater (parts : List (String × List Char)) (rest : List Char) :
    Delimited (printLater parts ++ '\x7d' :: rest) := by
  cases parts with
  | nil => exact .cons (.inr (.inr rfl))
  | cons part parts => exact .cons (.inl rfl)

theorem nextKey_first (key : String) (rest : List Char) :
    nextKey true (printText key ++ rest) = .ok (some key, rest) := by
  rw [printText_append]
  change (string _).map _ = _
  rw [string_printed]
  rfl

theorem nextKey_later (key : String) (rest : List Char) :
    nextKey false (',' :: (printText key ++ rest)) = .ok (some key, rest) := by
  rw [printText_append]
  change (string _).map _ = _
  rw [string_printed]
  rfl

/-- One member is read as the members before it and those after it are left to other steps. -/
theorem readMembers_member {m : Member σ} {steps : Nat} {first : Bool}
    (named : nextKey first input = .ok (some key, ':' :: (value ++ rest)))
    (found : l.members.find? (·.name == key) = some m) (fresh : m.given draft = false)
    (read : m.read draft (value ++ rest) = .ok (draft', rest)) :
    readMembers l (steps + 1) first draft input = readMembers l steps false draft' rest := by
  have colon : skipColon (':' :: (value ++ rest)) = .ok (value ++ rest) := rfl
  rw [readMembers]
  simp only [named, found, fresh, colon, Except.bind, read, Bool.false_eq_true, if_false]

theorem readMembers_end (l : Layout σ α) (steps : Nat) (first : Bool) (draft : σ) (rest : List Char) :
    readMembers l (steps + 1) first draft ('\x7d' :: rest) = .ok (draft, '\x7d' :: rest) :=
  rfl

theorem Fills.readMembers_later (fills : Fills l draft parts draft') {steps : Nat}
    (enough : parts.length < steps) (rest : List Char) :
    readMembers l steps false draft (printLater parts ++ '\x7d' :: rest) =
      .ok (draft', '\x7d' :: rest) := by
  -- Each member takes one step, and the closing brace takes the last.
  obtain ⟨steps, rfl⟩ : ∃ left, steps = left + 1 := ⟨steps - 1, by omega⟩
  induction fills generalizing steps with
  | nil => exact readMembers_end l steps false _ rest
  | @cons key m draft value draft' parts last found fresh read fills ih =>
    obtain ⟨steps, rfl⟩ : ∃ left, steps = left + 1 := ⟨steps - 1, by
      rw [List.length_cons] at enough
      omega⟩
    have split : printLater ((key, value) :: parts) ++ '\x7d' :: rest =
        ',' :: (printText key ++ ':' :: (value ++ (printLater parts ++ '\x7d' :: rest))) := by
      simp [printLater]
    rw [split, readMembers_member (nextKey_later key _) found fresh
      (read _ (delimited_printLater parts rest))]
    refine ih steps ?_
    rw [List.length_cons] at enough
    omega

theorem Fills.readMembers_first (fills : Fills l draft parts draft') {steps : Nat}
    (enough : parts.length < steps) (rest : List Char) :
    readMembers l steps true draft (printMembers parts ++ '\x7d' :: rest) =
      .ok (draft', '\x7d' :: rest) := by
  obtain ⟨steps, rfl⟩ : ∃ left, steps = left + 1 := ⟨steps - 1, by omega⟩
  cases fills with
  | nil => exact readMembers_end l steps true _ rest
  | @cons key m _ value draft' parts _ found fresh read fills =>
    have split : printMembers ((key, value) :: parts) ++ '\x7d' :: rest =
        printText key ++ ':' :: (value ++ (printLater parts ++ '\x7d' :: rest)) := by
      simp [printMembers_cons]
    rw [split, readMembers_member (nextKey_first key _) found fresh
      (read _ (delimited_printLater parts rest))]
    refine fills.readMembers_later ?_ rest
    rw [List.length_cons] at enough
    omega

theorem readRecord_printObject {whole : α} (fills : Fills l l.start parts draft)
    (finished : l.finish draft = .ok whole) (rest : List Char) :
    readRecord l (printObject parts ++ rest) = .ok (whole, rest) := by
  have opened : printObject parts ++ rest = '\x7b' :: (printMembers parts ++ '\x7d' :: rest) := by
    simp [printObject]
  have enough : parts.length < (printMembers parts ++ '\x7d' :: rest).length + 1 := by
    have := length_le_printMembers parts
    rw [List.length_append]
    omega
  rw [opened, readRecord, skipSpace_of_not_space rfl]
  simp only [fills.readMembers_first enough rest, closeRecord, finished]
  rfl

theorem decode_printObject {whole : α} (fills : Fills l l.start parts draft)
    (finished : l.finish draft = .ok whole) :
    decode (readRecord l) (String.ofList (printObject parts)) = .ok whole := by
  have read := readRecord_printObject fills finished []
  rw [List.append_nil] at read
  rw [decode, decodeChars, String.toList_ofList, read]
  rfl

end Records

/-! ## Control characters -/

section Controls
variable {c : Char}

theorem escaped_shown {d : Char} (printed : d ∈ escaped c) : 0x20 ≤ d.toNat := by
  unfold escaped at printed
  split at printed
  case h_8 =>
    split at printed
    · rename_i control
      have digit : ∀ n < 16, 0x20 ≤ (Nat.digitChar n).toNat := by decide
      simp only [controlDigits, List.mem_cons, List.not_mem_nil, or_false] at printed
      obtain rfl | rfl | rfl | rfl | rfl | rfl := printed
      · decide
      · decide
      · decide
      · decide
      · exact digit _ (by omega)
      · exact digit _ (by omega)
    · rename_i shown
      cases List.mem_singleton.mp printed
      omega
  all_goals
    simp only [List.mem_cons, List.not_mem_nil, or_false] at printed
    obtain rfl | rfl := printed <;> decide

theorem printText_shown {s : String} (printed : c ∈ printText s) : 0x20 ≤ c.toNat := by
  simp only [printText, List.mem_append, List.mem_cons, List.mem_flatMap, List.not_mem_nil,
    or_false] at printed
  obtain (rfl | ⟨_, _, inside⟩) | rfl := printed
  · decide
  · exact escaped_shown inside
  · decide

theorem printNatural_shown {n : Nat} (printed : c ∈ printNatural n) : 0x20 ≤ c.toNat := by
  have digit := isDigit_of_mem_printNatural printed
  simp only [isDigit, decide_eq_true_eq, Char.le_def, UInt32.le_iff_toNat_le] at digit
  have := digit.1
  simp only [Char.toNat]
  change 48 ≤ _ at this
  omega

theorem printObject_shown {parts : List (String × List Char)}
    (values : ∀ part ∈ parts, ∀ c ∈ part.2, 0x20 ≤ c.toNat) (printed : c ∈ printObject parts) :
    0x20 ≤ c.toNat := by
  have members : ∀ c ∈ printMembers parts, 0x20 ≤ c.toNat := by
    cases parts with
    | nil => exact fun c inside => absurd inside List.not_mem_nil
    | cons part parts =>
      obtain ⟨here, later⟩ := List.forall_mem_cons.mp values
      intro c printed
      simp only [printMembers_cons part.1 part.2, printLater, List.mem_append, List.mem_cons,
        List.mem_flatMap, List.cons_append] at printed
      obtain (key | rfl | value) | ⟨part, inside, rfl | key | rfl | value⟩ := printed
      · exact printText_shown key
      · decide
      · exact here c value
      · decide
      · exact printText_shown key
      · decide
      · exact later part inside c value
  simp only [printObject, List.mem_append, List.mem_cons, List.not_mem_nil, or_false] at printed
  obtain (rfl | inside) | rfl := printed
  · decide
  · exact members c inside
  · decide

end Controls

end EventProbe.Json
