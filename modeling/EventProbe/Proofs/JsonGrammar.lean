import EventProbe.Proofs.JsonRoundTrip

/-! The texts of JSON values, whatever their blanks, their order of members and the escapes in their
strings. A relation holds between a text that begins with a value and what is behind the value. Of the
strings those are texts whose surrogates come in pairs. -/
namespace EventProbe.Json

inductive Value where
  | null
  | bool (b : Bool)
  /-- A number as it is written. -/
  | number (chars : List Char)
  | text (s : String)
  | list (elements : List Value)
  | object (members : List (String × Value))

/-! ## Lexemes -/

/-- There are blanks between the first text and the second. -/
inductive Blanks : List Char → List Char → Prop where
  | none : Blanks rest rest
  | more : isSpace c = true → Blanks start rest → Blanks (c :: start) rest

/-- The characters after a backslash with what they stand for. -/
def shortEscapes : List (Char × Char) :=
  [('"', '"'), ('\\', '\\'), ('/', '/'), ('b', '\x08'), ('f', '\x0c'), ('n', '\n'), ('r', '\r'),
    ('t', '\t')]

/-- An escape with four digits, which are the number. -/
inductive CodeUnit : Nat → List Char → List Char → Prop where
  | intro : hexValue a = some i → hexValue b = some j → hexValue c = some k → hexValue d = some l →
      CodeUnit (((i * 16 + j) * 16 + k) * 16 + l) ('\\' :: 'u' :: a :: b :: c :: d :: rest) rest

def IsHigh (n : Nat) : Prop := 0xD800 ≤ n ∧ n ≤ 0xDBFF

def IsLow (n : Nat) : Prop := 0xDC00 ≤ n ∧ n ≤ 0xDFFF

instance : DecidablePred IsHigh := fun _ => inferInstanceAs (Decidable (_ ∧ _))

instance : DecidablePred IsLow := fun _ => inferInstanceAs (Decidable (_ ∧ _))

/-- Characters of a string up to the quote that ends it. -/
inductive Spells : List Char → List Char → List Char → Prop where
  | close : Spells [] ('"' :: rest) rest
  | plain : c ≠ '"' → c ≠ '\\' → ¬ c.toNat < 0x20 → Spells chars start rest →
      Spells (c :: chars) (c :: start) rest
  | short : (e, c) ∈ shortEscapes → Spells chars start rest →
      Spells (c :: chars) ('\\' :: e :: start) rest
  | unit : CodeUnit n start next → ¬ IsHigh n → ¬ IsLow n → Spells chars next rest →
      Spells (Char.ofNat n :: chars) start rest
  | pair : CodeUnit high start middle → CodeUnit low middle next → IsHigh high → IsLow low →
      Spells chars next rest →
      Spells (Char.ofNat (0x10000 + (high - 0xD800) * 0x400 + (low - 0xDC00)) :: chars) start rest

inductive Quoted (s : String) : List Char → List Char → Prop where
  | intro : Spells s.toList start rest → Quoted s ('"' :: start) rest

/-- A whole number without zeros in front. -/
inductive WholeText : List Char → Prop where
  | zero : WholeText ['0']
  | digits : c ≠ '0' → (∀ d ∈ c :: digits, isDigit d = true) → WholeText (c :: digits)

inductive FractionText : List Char → Prop where
  | none : FractionText []
  | some : digits ≠ [] → (∀ d ∈ digits, isDigit d = true) → FractionText ('.' :: digits)

inductive ExponentText : List Char → Prop where
  | none : ExponentText []
  | some : e = 'e' ∨ e = 'E' → sign ∈ [[], ['+'], ['-']] → digits ≠ [] →
      (∀ d ∈ digits, isDigit d = true) → ExponentText (e :: (sign ++ digits))

inductive NumberText : List Char → Prop where
  | intro : sign ∈ [[], ['-']] → WholeText whole → FractionText fraction → ExponentText exponent →
      NumberText (sign ++ (whole ++ (fraction ++ exponent)))

/-- What stands before a member or an element: a comma unless it is the first. -/
inductive Lead : Bool → List Char → List Char → Prop where
  | first : Blanks start rest → Lead true start rest
  | later : Blanks start (',' :: next) → Blanks next rest → Lead false start rest

/-! ## Values -/

mutual

inductive Spelled : Value → List Char → List Char → Prop where
  | null : Spelled .null ('n' :: 'u' :: 'l' :: 'l' :: rest) rest
  | true : Spelled (.bool true) ('t' :: 'r' :: 'u' :: 'e' :: rest) rest
  | false : Spelled (.bool false) ('f' :: 'a' :: 'l' :: 's' :: 'e' :: rest) rest
  | number : NumberText chars → Spelled (.number chars) (chars ++ rest) rest
  | text : Quoted s start rest → Spelled (.text s) start rest
  | list : Elements true vs start rest → Spelled (.list vs) ('[' :: start) rest
  | object : Members true ms start rest → Spelled (.object ms) ('\x7b' :: start) rest

/-- A text begins with the elements of a list, the first of which may have come, and with its end. -/
inductive Elements : Bool → List Value → List Char → List Char → Prop where
  | done : Blanks start (']' :: rest) → Elements first [] start rest
  | element : Lead first start value → Spelled v value next → Elements false vs next rest →
      Elements first (v :: vs) start rest

/-- A text begins with the members of an object, the first of which may have come, and with its end. -/
inductive Members : Bool → List (String × Value) → List Char → List Char → Prop where
  | done : Blanks start ('\x7d' :: rest) → Members first [] start rest
  | member : Lead first start key → Quoted name key colon → Blanks colon (':' :: value) →
      Blanks value value' → Spelled v value' next → Members false ms next rest →
      Members first ((name, v) :: ms) start rest

end

def Document (v : Value) (text : String) : Prop :=
  ∃ start rest, Blanks text.toList start ∧ Spelled v start rest ∧ Blanks rest []

/-! ## Reading lexemes -/

section Lexemes
variable {start rest middle : List Char} {c : Char} {n : Nat} {first : Bool}

theorem Blanks.skip (blanks : Blanks start rest) : skipSpace start = skipSpace rest := by
  induction blanks with
  | none => rfl
  | more space _ ih => rw [← ih, skipSpace, List.dropWhile_cons, if_pos space]; rfl

theorem Blanks.skip_to (blanks : Blanks start (c :: rest)) (dark : isSpace c = false) :
    skipSpace start = c :: rest := by
  rw [blanks.skip, skipSpace_of_not_space dark]

/-- What is read of an escape that stands for a character, or for the first half of one. -/
theorem CodeUnit.read (unit : CodeUnit n start rest) (found : List Char) :
    (¬ IsHigh n → ¬ IsLow n →
      stringTail start .plain found = stringTail rest .plain (Char.ofNat n :: found)) ∧
    (IsHigh n → stringTail start .plain found = stringTail rest (.pair n) found) := by
  cases unit with
  | @intro a i b j c k d l _ first second third fourth =>
    constructor
    · intro high low
      have done : unitDone none (((i * 16 + j) * 16 + k) * 16 + l) =
          .ok (.plain, some (Char.ofNat (((i * 16 + j) * 16 + k) * 16 + l))) :=
        (if_neg low).trans (if_neg high)
      simp [stringTail, first, second, third, fourth, done]
    · intro high
      have low : ¬ IsLow (((i * 16 + j) * 16 + k) * 16 + l) := by
        unfold IsHigh at high
        unfold IsLow
        omega
      have done : unitDone none (((i * 16 + j) * 16 + k) * 16 + l) = .ok (.pair _, none) :=
        (if_neg low).trans (if_pos high)
      simp [stringTail, first, second, third, fourth, done]

/-- The second half of a character is read after the first. -/
theorem CodeUnit.read_low (unit : CodeUnit n start rest) (low : IsLow n) (high : Nat) (found : List Char) :
    stringTail start (.pair high) found = stringTail rest .plain
      (Char.ofNat (0x10000 + (high - 0xD800) * 0x400 + (n - 0xDC00)) :: found) := by
  cases unit with
  | @intro a i b j c k d l _ first second third fourth =>
    have done : unitDone (some high) (((i * 16 + j) * 16 + k) * 16 + l) = .ok (.plain, some _) := if_pos low
    simp [stringTail, first, second, third, fourth, done]

theorem Spells.read {chars : List Char} (spells : Spells chars start rest) (found : List Char) :
    stringTail start .plain found = .ok (String.ofList (found.reverse ++ chars), rest) := by
  induction spells generalizing found with
  | close => rw [stringTail, if_pos rfl, List.append_nil]
  | plain quote backslash shown _ ih =>
    rw [stringTail, if_neg quote, if_neg backslash, if_neg shown, ih, List.reverse_cons,
      List.append_assoc, List.singleton_append]
  | @short e c _ start _ escape _ ih =>
    have escapes : ∀ p ∈ shortEscapes, p.1 ≠ 'u' ∧ shortEscape p.1 = some p.2 := by decide
    obtain ⟨other, means⟩ := escapes _ escape
    have enter : stringTail ('\\' :: e :: start) .plain found = stringTail (e :: start) .escape found := rfl
    rw [enter, stringTail, if_neg other, means]
    dsimp only
    rw [ih, List.reverse_cons, List.append_assoc, List.singleton_append]
  | unit unit high low _ ih =>
    rw [(unit.read found).1 high low, ih, List.reverse_cons, List.append_assoc, List.singleton_append]
  | pair unit unit' high low _ ih =>
    rw [(unit.read found).2 high, unit'.read_low low, ih, List.reverse_cons, List.append_assoc,
      List.singleton_append]

theorem Quoted.read {s : String} (quoted : Quoted s start rest) :
    ∃ chars, start = '"' :: chars ∧ string chars = .ok (s, rest) := by
  cases quoted with
  | intro spells =>
    refine ⟨_, rfl, ?_⟩
    rw [string, spells.read, List.reverse_nil, List.nil_append, String.ofList_toList]

/-- Characters that need no escape are spelled as themselves. -/
theorem spells_plain {chars : List Char} (plain : ∀ c ∈ chars, c ≠ '"' ∧ c ≠ '\\' ∧ ¬ c.toNat < 0x20)
    (rest : List Char) : Spells chars (chars ++ '"' :: rest) rest := by
  induction chars with
  | nil => exact .close
  | cons c chars ih =>
    obtain ⟨⟨quote, backslash, shown⟩, later⟩ := List.forall_mem_cons.mp plain
    exact .plain quote backslash shown (ih later)

end Lexemes

/-! ## Lengths -/

section Lengths
variable {start rest : List Char} {first : Bool}

theorem Blanks.length_le (blanks : Blanks start rest) : rest.length ≤ start.length := by
  induction blanks with
  | none => exact Nat.le_refl _
  | more _ _ ih => exact Nat.le_succ_of_le ih

theorem Lead.length_le (lead : Lead first start rest) : rest.length ≤ start.length := by
  cases lead with
  | first blanks => exact blanks.length_le
  | later comma blanks => exact Nat.le_trans blanks.length_le (Nat.le_of_succ_le comma.length_le)

theorem CodeUnit.length_le {n : Nat} (unit : CodeUnit n start rest) : rest.length ≤ start.length := by
  cases unit
  simp only [List.length_cons]
  omega

theorem Spells.length_lt {chars : List Char} (spells : Spells chars start rest) :
    rest.length < start.length := by
  induction spells with
  | close => exact Nat.lt_succ_self _
  | plain _ _ _ _ ih => exact Nat.lt_succ_of_lt ih
  | short _ _ ih => exact Nat.lt_succ_of_lt (Nat.lt_succ_of_lt ih)
  | unit unit _ _ _ ih => exact Nat.lt_of_lt_of_le ih unit.length_le
  | pair unit unit' _ _ _ ih => exact Nat.lt_of_lt_of_le ih (Nat.le_trans unit'.length_le unit.length_le)

theorem Quoted.length_lt {s : String} (quoted : Quoted s start rest) : rest.length < start.length := by
  cases quoted with
  | intro spells => exact Nat.lt_succ_of_lt spells.length_lt

end Lengths

mutual

theorem Spelled.length_le {v : Value} {start rest : List Char} :
    Spelled v start rest → rest.length ≤ start.length
  | .null => by simp only [List.length_cons]; omega
  | .true => by simp only [List.length_cons]; omega
  | .false => by simp only [List.length_cons]; omega
  | .number _ => by simp only [List.length_append]; omega
  | .text quoted => Nat.le_of_lt quoted.length_lt
  | .list elements => Nat.le_succ_of_le elements.length_le
  | .object members => Nat.le_succ_of_le (Nat.le_trans (Nat.le_add_right _ _) members.length_le)

theorem Elements.length_le {first : Bool} {vs : List Value} {start rest : List Char} :
    Elements first vs start rest → rest.length ≤ start.length
  | .done blanks => Nat.le_of_succ_le blanks.length_le
  | .element lead spelled later =>
    Nat.le_trans later.length_le (Nat.le_trans spelled.length_le lead.length_le)

theorem Members.length_le {first : Bool} {ms : List (String × Value)} {start rest : List Char} :
    Members first ms start rest → rest.length + ms.length ≤ start.length
  | .done blanks => Nat.le_of_succ_le blanks.length_le
  | .member lead quoted colon blanks spelled later => by
    have tail := later.length_le
    have value := spelled.length_le
    have gap := blanks.length_le
    have mark := colon.length_le
    have name := quoted.length_lt
    have head := lead.length_le
    simp only [List.length_cons] at *
    omega

end

end EventProbe.Json
