import EventProbe.Text.Utf8
import Mathlib.Tactic.SplitIfs

/-! Bytes are read as a text exactly if they are the bytes of that text. A first byte announces a
range of characters, and the bytes that complete it choose one of them. -/
namespace EventProbe.Utf8

variable {b : UInt8} {bytes conts rest : List UInt8} {found : List Piece} {p : Pending} {c : Char}

/-- What a first byte announces, in numbers: how many bytes follow it, the bits that it carries, and
the range of the next byte. -/
theorem lead_cases (announced : lead b = some p) :
    (p.owed = 1 ∧ 0xC2 ≤ b.toNat ∧ b.toNat < 0xE0 ∧ p.code = b.toNat - 0xC0 ∧
      p.low.toNat = 0x80 ∧ p.high.toNat = 0xBF) ∨
    (p.owed = 2 ∧ 0xE0 ≤ b.toNat ∧ b.toNat < 0xF0 ∧ p.code = b.toNat - 0xE0 ∧
      (b.toNat = 0xE0 ∧ p.low.toNat = 0xA0 ∨ b.toNat ≠ 0xE0 ∧ p.low.toNat = 0x80) ∧
      (b.toNat = 0xED ∧ p.high.toNat = 0x9F ∨ b.toNat ≠ 0xED ∧ p.high.toNat = 0xBF)) ∨
    (p.owed = 3 ∧ 0xF0 ≤ b.toNat ∧ b.toNat < 0xF5 ∧ p.code = b.toNat - 0xF0 ∧
      (b.toNat = 0xF0 ∧ p.low.toNat = 0x90 ∨ b.toNat ≠ 0xF0 ∧ p.low.toNat = 0x80) ∧
      (b.toNat = 0xF4 ∧ p.high.toNat = 0x8F ∨ b.toNat ≠ 0xF4 ∧ p.high.toNat = 0xBF)) := by
  unfold lead at announced
  simp only [UInt8.lt_iff_toNat_lt, ← UInt8.toNat_inj, UInt8.reduceToNat] at announced
  split_ifs at announced <;> rw [Option.some.injEq] at announced <;> subst announced
  all_goals dsimp only [UInt8.reduceToNat]; omega

theorem exists_lead (low : 0xC2 ≤ b.toNat) (high : b.toNat < 0xF5) : ∃ p, lead b = some p := by
  unfold lead
  simp only [UInt8.lt_iff_toNat_lt, ← UInt8.toNat_inj, UInt8.reduceToNat]
  split_ifs <;> first | exact ⟨_, rfl⟩ | omega

def Completes (p : Pending) : List UInt8 → Prop
  | [] => False
  | b :: rest => p.low ≤ b ∧ b ≤ p.high ∧
    if p.owed ≤ 1 then rest = []
    else Completes ⟨p.code * 64 + (b.toNat - 0x80), p.seen + 1, p.owed - 1, 0x80, 0xBF⟩ rest

/-- The number of a character whose code so far is extended by further bytes. -/
def extended (code : Nat) (conts : List UInt8) : Nat :=
  conts.foldl (fun n b => n * 64 + (b.toNat - 0x80)) code

theorem scan_completes (completes : Completes p conts) (found : List Piece) :
    scan (conts ++ rest) (some p) found =
      scan rest none (.char (Char.ofNat (extended p.code conts)) :: found) := by
  induction conts generalizing p with
  | nil => exact completes.elim
  | cons b conts ih =>
    obtain ⟨low, high, more⟩ := completes
    by_cases last : p.owed ≤ 1
    · rw [if_pos last] at more
      subst more
      simp only [List.singleton_append, scan, continue?, low, high, last, and_self, if_true]
      rfl
    · rw [if_neg last] at more
      have step := ih more
      simpa only [List.cons_append, scan, continue?, low, high, last, and_self, if_true, if_false,
        extended, List.foldl_cons, Option.toList_none, List.nil_append] using step

def Piece.isChar : Piece → Bool
  | .char _ => true
  | _ => false

theorem mem_scan_of_mem {piece : Piece} (earlier : piece ∈ found) (bytes : List UInt8)
    (p : Option Pending) : piece ∈ scan bytes p found := by
  induction bytes generalizing p found with
  | nil => cases p <;> simp [scan, earlier]
  | cons b rest ih =>
    cases p with
    | none => exact ih (List.mem_append_right _ earlier) _
    | some p =>
      unfold scan
      split
      · exact ih (List.mem_append_right _ earlier) _
      · exact ih (List.mem_append_right _ (List.mem_cons_of_mem _ earlier)) _

/-- A pending character is completed by the bytes that come, or they have a fault. -/
theorem completes_or_fault (bytes : List UInt8) (p : Pending) :
    (∃ conts rest, bytes = conts ++ rest ∧ Completes p conts) ∨
      ∀ found, ∃ piece ∈ scan bytes (some p) found, piece.isChar = false := by
  induction bytes generalizing p with
  | nil => exact .inr fun found => ⟨.cut p.seen, by simp [scan], rfl⟩
  | cons b rest ih =>
    by_cases within : p.low ≤ b ∧ b ≤ p.high
    · by_cases last : p.owed ≤ 1
      · exact .inl ⟨[b], rest, rfl, within.1, within.2, by rw [if_pos last]⟩
      · obtain ⟨conts, left, rfl, completes⟩ | fault := ih
          ⟨p.code * 64 + (b.toNat - 0x80), p.seen + 1, p.owed - 1, 0x80, 0xBF⟩
        · exact .inl ⟨b :: conts, left, rfl, within.1, within.2, by rwa [if_neg last]⟩
        · refine .inr fun found => ?_
          simp only [scan, continue?, within, and_self, if_true, last, if_false]
          exact fault found
    · refine .inr fun found => ⟨.broken p.seen, ?_, rfl⟩
      simp only [scan, continue?, within, if_false]
      exact mem_scan_of_mem (List.mem_append_right _ List.mem_cons_self) _ _

theorem completes_one (owed : p.owed = 1) :
    Completes p conts ↔ ∃ a, conts = [a] ∧ p.low.toNat ≤ a.toNat ∧ a.toNat ≤ p.high.toNat := by
  cases conts with
  | nil => simp [Completes]
  | cons a rest =>
    simp only [Completes, owed, Nat.le_refl, if_true, UInt8.le_iff_toNat_le, List.cons.injEq]
    constructor
    · rintro ⟨low, high, rfl⟩
      exact ⟨a, ⟨rfl, rfl⟩, low, high⟩
    · rintro ⟨_, ⟨rfl, rfl⟩, low, high⟩
      exact ⟨low, high, rfl⟩

theorem completes_more (owed : p.owed = n + 2) :
    Completes p conts ↔ ∃ a rest, conts = a :: rest ∧ p.low.toNat ≤ a.toNat ∧
      a.toNat ≤ p.high.toNat ∧
      Completes ⟨p.code * 64 + (a.toNat - 0x80), p.seen + 1, n + 1, 0x80, 0xBF⟩ rest := by
  have several : ¬ p.owed ≤ 1 := by omega
  have fewer : p.owed - 1 = n + 1 := by omega
  cases conts with
  | nil => simp [Completes]
  | cons a rest =>
    simp only [Completes, several, if_false, fewer, UInt8.le_iff_toNat_le, List.cons.injEq]
    constructor
    · rintro ⟨low, high, more⟩
      exact ⟨a, rest, ⟨rfl, rfl⟩, low, high, more⟩
    · rintro ⟨_, _, ⟨rfl, rfl⟩, low, high, more⟩
      exact ⟨low, high, more⟩

theorem toNat_ofNat_of_valid {v : Nat} (valid : v.isValidChar) : (Char.ofNat v).val.toNat = v := by
  rw [Char.ofNat, dif_pos valid, Char.toNat_val]
  rfl

/-- A first byte and the bytes that complete it are the bytes of one character. -/
theorem encode_of_completes (announced : lead b = some p) (completes : Completes p conts) :
    String.utf8EncodeChar (Char.ofNat (extended p.code conts)) = b :: conts := by
  -- One case for each width. The bounds on the byte after `b` are what makes the code a character
  -- of this width: not shorter, not a surrogate, not too large.
  obtain ⟨owed, lo, hi, code, low, high⟩ | ⟨owed, lo, hi, code, low, high⟩ |
    ⟨owed, lo, hi, code, low, high⟩ := lead_cases announced
  · obtain ⟨a, rfl, la, ha⟩ := (completes_one owed).mp completes
    have value : extended p.code [a] = (b.toNat - 0xC0) * 64 + (a.toNat - 0x80) := by
      rw [extended, code]
      rfl
    have valid : (extended p.code [a]).isValidChar := by
      left
      omega
    rw [String.utf8EncodeChar, toNat_ofNat_of_valid valid, value]
    rw [if_neg (by omega), if_pos (by omega)]
    simp only [List.cons.injEq, ← UInt8.toNat_inj, UInt8.toNat_ofNat', and_true]
    omega
  · obtain ⟨a, _, rfl, la, ha, completes⟩ := (completes_more (n := 0) owed).mp completes
    obtain ⟨a', rfl, la', ha'⟩ := (completes_one rfl).mp completes
    dsimp only [UInt8.reduceToNat] at la' ha'
    have value : extended p.code [a, a'] =
        ((b.toNat - 0xE0) * 64 + (a.toNat - 0x80)) * 64 + (a'.toNat - 0x80) := by
      rw [extended, code]
      rfl
    have valid : (extended p.code [a, a']).isValidChar := by
      rw [value, Nat.isValidChar]
      omega
    rw [String.utf8EncodeChar, toNat_ofNat_of_valid valid, value]
    rw [if_neg (by omega), if_neg (by omega), if_pos (by omega)]
    simp only [List.cons.injEq, ← UInt8.toNat_inj, UInt8.toNat_ofNat', and_true]
    omega
  · obtain ⟨a, _, rfl, la, ha, completes⟩ := (completes_more (n := 1) owed).mp completes
    obtain ⟨a', _, rfl, la', ha', completes⟩ := (completes_more (n := 0) rfl).mp completes
    obtain ⟨a'', rfl, la'', ha''⟩ := (completes_one rfl).mp completes
    dsimp only [UInt8.reduceToNat] at la' ha' la'' ha''
    have value : extended p.code [a, a', a''] =
        (((b.toNat - 0xF0) * 64 + (a.toNat - 0x80)) * 64 + (a'.toNat - 0x80)) * 64 +
          (a''.toNat - 0x80) := by
      rw [extended, code]
      rfl
    have valid : (extended p.code [a, a', a'']).isValidChar := by
      rw [value, Nat.isValidChar]
      omega
    rw [String.utf8EncodeChar, toNat_ofNat_of_valid valid, value]
    rw [if_neg (by omega), if_neg (by omega), if_neg (by omega)]
    simp only [List.cons.injEq, ← UInt8.toNat_inj, UInt8.toNat_ofNat', and_true]
    omega

theorem toNat_byte {n : Nat} (small : n < 256) : (UInt8.ofNat n).toNat = n := by
  rw [UInt8.toNat_ofNat']
  omega

theorem toNat_tail (n : Nat) : (UInt8.ofNat (n % 64 + 128)).toNat = n % 64 + 128 :=
  toNat_byte (by omega)

theorem completes_tail (code seen n : Nat) :
    Completes ⟨code, seen, 1, 0x80, 0xBF⟩ [UInt8.ofNat (n % 64 + 128)] := by
  have tail := toNat_tail n
  refine (completes_one rfl).mpr ⟨_, rfl, ?_, ?_⟩
  · simp only [UInt8.reduceToNat]
    omega
  · simp only [UInt8.reduceToNat]
    omega

theorem completes_two_bytes {v : Nat} (low : 0x80 ≤ v) (high : v ≤ 0x7FF) :
    ∃ p, lead (UInt8.ofNat (v / 64 % 32 + 192)) = some p ∧
      Completes p [UInt8.ofNat (v % 64 + 128)] ∧
      extended p.code [UInt8.ofNat (v % 64 + 128)] = v := by
  have head := toNat_byte (n := v / 64 % 32 + 192) (by omega)
  have tail := toNat_tail v
  obtain ⟨p, announced⟩ := exists_lead (b := UInt8.ofNat (v / 64 % 32 + 192)) (by omega) (by omega)
  have facts := lead_cases announced
  rw [head] at facts
  refine ⟨p, announced, (completes_one (by omega)).mpr ⟨_, rfl, ?_, ?_⟩, ?_⟩
  · omega
  · omega
  · simp only [extended, List.foldl_cons, List.foldl_nil, tail]
    omega

theorem completes_three_bytes {v : Nat} (low : 0x7FF < v) (high : v ≤ 0xFFFF)
    (valid : v.isValidChar) :
    ∃ p, lead (UInt8.ofNat (v / 4096 % 16 + 224)) = some p ∧
      Completes p [UInt8.ofNat (v / 64 % 64 + 128), UInt8.ofNat (v % 64 + 128)] ∧
      extended p.code [UInt8.ofNat (v / 64 % 64 + 128), UInt8.ofNat (v % 64 + 128)] = v := by
  have head := toNat_byte (n := v / 4096 % 16 + 224) (by omega)
  have next := toNat_tail (v / 64)
  have tail := toNat_tail v
  obtain ⟨p, announced⟩ := exists_lead (b := UInt8.ofNat (v / 4096 % 16 + 224)) (by omega) (by omega)
  have facts := lead_cases announced
  rw [head] at facts
  rw [Nat.isValidChar] at valid
  refine ⟨p, announced, (completes_more (n := 0) (by omega)).mpr
    ⟨_, _, rfl, ?_, ?_, completes_tail _ _ v⟩, ?_⟩
  · omega
  · omega
  · simp only [extended, List.foldl_cons, List.foldl_nil, next, tail]
    omega

theorem completes_four_bytes {v : Nat} (low : 0xFFFF < v) (high : v < 0x110000) :
    ∃ p, lead (UInt8.ofNat (v / 262144 % 8 + 240)) = some p ∧
      Completes p [UInt8.ofNat (v / 4096 % 64 + 128), UInt8.ofNat (v / 64 % 64 + 128),
        UInt8.ofNat (v % 64 + 128)] ∧
      extended p.code [UInt8.ofNat (v / 4096 % 64 + 128), UInt8.ofNat (v / 64 % 64 + 128),
        UInt8.ofNat (v % 64 + 128)] = v := by
  have head := toNat_byte (n := v / 262144 % 8 + 240) (by omega)
  have second := toNat_tail (v / 4096)
  have next := toNat_tail (v / 64)
  have tail := toNat_tail v
  obtain ⟨p, announced⟩ := exists_lead (b := UInt8.ofNat (v / 262144 % 8 + 240)) (by omega) (by omega)
  have facts := lead_cases announced
  rw [head] at facts
  refine ⟨p, announced, (completes_more (n := 1) (by omega)).mpr ⟨_, _, rfl, ?_, ?_,
    (completes_more (n := 0) rfl).mpr ⟨_, _, rfl, ?_, ?_, completes_tail _ _ v⟩⟩, ?_⟩
  · omega
  · omega
  · simp only [UInt8.reduceToNat]
    omega
  · simp only [UInt8.reduceToNat]
    omega
  · simp only [extended, List.foldl_cons, List.foldl_nil, second, next, tail]
    omega

/-- The bytes of a character of several bytes are a first byte and bytes that complete it. -/
theorem exists_completes (wide : 0x80 ≤ c.val.toNat) :
    ∃ b conts p, String.utf8EncodeChar c = b :: conts ∧ lead b = some p ∧ Completes p conts ∧
      extended p.code conts = c.val.toNat := by
  have valid : c.val.toNat.isValidChar := c.valid
  rw [String.utf8EncodeChar]
  generalize c.val.toNat = v at valid wide
  rw [if_neg (by omega)]
  by_cases two : v ≤ 0x7FF
  · rw [if_pos two]
    obtain ⟨p, facts⟩ := completes_two_bytes wide two
    exact ⟨_, _, p, rfl, facts⟩
  · rw [if_neg two]
    by_cases three : v ≤ 0xFFFF
    · rw [if_pos three]
      obtain ⟨p, facts⟩ := completes_three_bytes (Nat.lt_of_not_le two) three valid
      exact ⟨_, _, p, rfl, facts⟩
    · rw [if_neg three]
      have high : v < 0x110000 := by
        rw [Nat.isValidChar] at valid
        omega
      obtain ⟨p, facts⟩ := completes_four_bytes (Nat.lt_of_not_le three) high
      exact ⟨_, _, p, rfl, facts⟩

/-- A character is decoded from its bytes, whatever follows them. -/
theorem scan_char (c : Char) (rest : List UInt8) (found : List Piece) :
    scan (String.utf8EncodeChar c ++ rest) none found = scan rest none (.char c :: found) := by
  by_cases narrow : c.val.toNat < 0x80
  · have bytes : String.utf8EncodeChar c = [UInt8.ofNat c.val.toNat] := by
      rw [String.utf8EncodeChar, if_pos (by omega)]
    have same := toNat_byte (n := c.val.toNat) (by omega)
    have small : UInt8.ofNat c.val.toNat < 0x80 := by
      rw [UInt8.lt_iff_toNat_lt, same]
      exact narrow
    rw [bytes, List.singleton_append, scan, start, if_pos small, same]
    simp only [Char.toNat_val, Char.ofNat_toNat, Option.toList_some, List.singleton_append]
  · obtain ⟨b, conts, p, bytes, announced, completes, code⟩ := exists_completes (c := c) (by omega)
    have large : ¬ b < 0x80 := by
      have facts := lead_cases announced
      rw [UInt8.lt_iff_toNat_lt]
      simp only [UInt8.reduceToNat]
      omega
    rw [bytes, List.cons_append, scan, start, if_neg large, announced]
    simp only [Option.toList_none, List.nil_append]
    rw [scan_completes completes, code, Char.toNat_val, Char.ofNat_toNat]

theorem pieces_chars (chars : List Char) (found : List Piece) :
    scan (chars.flatMap String.utf8EncodeChar) none found =
      found.reverse ++ chars.map .char := by
  induction chars generalizing found with
  | nil => simp [scan]
  | cons c rest ih =>
    rw [List.flatMap_cons, scan_char, ih, List.reverse_cons, List.append_assoc, List.map_cons,
      List.singleton_append]

theorem pieces_encode (text : String) : pieces (encode text) = text.toList.map .char := by
  rw [pieces, encode, pieces_chars, List.reverse_nil, List.nil_append]

/-- Bytes in which a decoder finds no fault are the bytes of some characters. -/
theorem exists_chars (bytes : List UInt8) (found : List Piece)
    (sound : ∀ piece ∈ scan bytes none found, piece.isChar = true) :
    ∃ chars : List Char, bytes = chars.flatMap String.utf8EncodeChar := by
  -- On the length, as each step takes off all bytes of one character.
  induction size : bytes.length using Nat.strongRecOn generalizing bytes found with
  | _ n ih =>
    cases bytes with
    | nil => exact ⟨[], rfl⟩
    | cons b rest =>
      suffices first : ∃ c left, b :: rest = String.utf8EncodeChar c ++ left by
        obtain ⟨c, left, split⟩ := first
        rw [split] at sound size ⊢
        rw [scan_char] at sound
        have shorter : left.length < n := by
          rw [List.length_append, String.length_utf8EncodeChar] at size
          have := c.utf8Size_pos
          omega
        obtain ⟨chars, rfl⟩ := ih left.length shorter left _ sound rfl
        exact ⟨c :: chars, rfl⟩
      by_cases narrow : b < 0x80
      · have single : b.toNat < 0x80 := narrow
        refine ⟨Char.ofNat b.toNat, rest, ?_⟩
        rw [String.utf8EncodeChar, toNat_ofNat_of_valid (.inl (by omega)), if_pos (by omega),
          UInt8.ofNat_toNat, List.singleton_append]
      · cases announced : lead b with
        | none =>
          have broken : Piece.broken 1 ∈ scan (b :: rest) none found := by
            simp only [scan, start, narrow, if_false, announced]
            exact mem_scan_of_mem (List.mem_append_left _ (by simp)) _ _
          cases sound _ broken
        | some p =>
          obtain ⟨conts, left, rfl, completes⟩ | fault := completes_or_fault rest p
          · exact ⟨_, left, by rw [encode_of_completes announced completes, List.cons_append]⟩
          · obtain ⟨piece, member, wrong⟩ := fault found
            have here : piece ∈ scan (b :: rest) none found := by
              simpa only [scan, start, narrow, if_false, announced, Option.toList_none,
                List.nil_append] using member
            cases wrong.symm.trans (sound piece here)

theorem collect_chars (chars : List Char) (index : Nat) (found : List Char) :
    collect (chars.map .char) index found = .ok (found.reverse ++ chars) := by
  induction chars generalizing index found with
  | nil => simp [collect]
  | cons c rest ih => rw [List.map_cons, collect, ih]; simp

theorem isChar_of_collect {list : List Piece} {index : Nat} {read : List Char}
    (whole : collect list index read = .ok chars) : ∀ piece ∈ list, piece.isChar = true := by
  induction list generalizing index read with
  | nil => simp
  | cons piece rest ih =>
    cases piece with
    | char c => exact List.forall_mem_cons.mpr ⟨rfl, ih whole⟩
    | broken n => cases whole
    | cut n => cases whole

theorem decode_encode (text : String) : decode (encode text) = .ok text := by
  rw [decode, pieces_encode, collect_chars, List.reverse_nil, List.nil_append]
  exact congrArg Except.ok String.ofList_toList

theorem encode_ofList (chars : List Char) :
    encode (String.ofList chars) = chars.flatMap String.utf8EncodeChar := by
  rw [encode, String.toList_ofList]

/-- Bytes are read as a text exactly if they are its bytes. -/
theorem decode_eq_ok_iff {text : String} : decode bytes = .ok text ↔ bytes = encode text := by
  constructor
  · intro read
    have whole : ∃ chars, collect (pieces bytes) 0 [] = .ok chars := by
      cases collected : collect (pieces bytes) 0 [] with
      | ok chars => exact ⟨chars, rfl⟩
      | error fault =>
        rw [decode, collected] at read
        cases read
    obtain ⟨chars, collected⟩ := whole
    obtain ⟨chars, rfl⟩ := exists_chars bytes [] (isChar_of_collect collected)
    rw [← encode_ofList, decode_encode] at read
    exact (encode_ofList chars).symm.trans (congrArg encode (Except.ok.inj read))
  · rintro rfl
    exact decode_encode text

theorem lossy_encode (text : String) : lossy (encode text) = text := by
  have shown : Piece.shown ∘ Piece.char = id := rfl
  rw [lossy, pieces_encode, List.map_map, shown, List.map_id, String.ofList_toList]

section Widths

theorem foldl_utf8Size (chars : List Char) (n : Nat) :
    chars.foldl (fun n c => n + c.utf8Size) n = n + width chars := by
  induction chars generalizing n with
  | nil => rfl
  | cons c rest ih =>
    have head := ih (0 + c.utf8Size)
    rw [width, List.foldl_cons, List.foldl_cons, head, ih]
    omega

theorem width_cons (c : Char) (chars : List Char) : width (c :: chars) = c.utf8Size + width chars := by
  rw [width, List.foldl_cons, foldl_utf8Size, Nat.zero_add]

theorem width_append (chars chars' : List Char) :
    width (chars ++ chars') = width chars + width chars' := by
  rw [width, List.foldl_append, foldl_utf8Size]
  rfl

theorem length_bytes (chars : List Char) :
    (chars.flatMap String.utf8EncodeChar).length = width chars := by
  induction chars with
  | nil => rfl
  | cons c rest ih =>
    rw [List.flatMap_cons, List.length_append, String.length_utf8EncodeChar, ih, width_cons]

theorem length_encode (text : String) : (encode text).length = width text.toList :=
  length_bytes _

theorem length_encode_eq (text : String) : (encode text).length = text.utf8ByteSize := by
  rw [← String.size_toByteArray, ← String.utf8Encode_toList, List.utf8Encode, List.size_toByteArray]
  rfl

theorem width_toList (text : String) : width text.toList = text.utf8ByteSize :=
  (length_encode text).symm.trans (length_encode_eq text)

/-- The bytes of a part of a text stand in its bytes at the width of what comes before the part. -/
theorem encode_part (before part after : List Char) :
    ((encode (String.ofList (before ++ part ++ after))).drop (width before)).take (width part) =
      encode (String.ofList part) := by
  simp only [encode_ofList, List.flatMap_append, List.append_assoc]
  rw [← length_bytes before, List.drop_left, ← length_bytes part, List.take_left]

end Widths

theorem mem_utf8EncodeChar (narrow : b.toNat < 0x80) :
    b ∈ String.utf8EncodeChar c ↔ c.val.toNat = b.toNat := by
  rw [String.utf8EncodeChar]
  have bound : c.val.toNat < 0x110000 := by
    have valid : c.val.toNat < 0xD800 ∨ 0xDFFF < c.val.toNat ∧ c.val.toNat < 0x110000 := c.valid
    omega
  generalize c.val.toNat = v at bound
  split_ifs <;> simp only [List.mem_cons, List.not_mem_nil, or_false, ← UInt8.toNat_inj,
    UInt8.toNat_ofNat'] <;> omega

end EventProbe.Utf8
