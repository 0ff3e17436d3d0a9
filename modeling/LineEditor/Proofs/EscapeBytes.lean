import LineEditor.Proofs.Truncation

/-!
# Escape sequences byte by byte

`Escape.split?` goes through a text character by character.  `Escape.length?` looks for the end of an
escape sequence among the bytes of a text in UTF-8 and answers with a number of bytes; nothing in that
search says that the number is a place between two characters.  It finds the end that `split?` finds,
because a byte that ends a sequence is never a part of a longer character.

* Bytes.  `encode_of_lt` and `le_of_mem_encode` say that a character is one byte below `0x80` or several
  from there on, so a text begins with such a byte exactly if it begins with its character
  (`head?_bytes_eq_iff`).
* Ends of sequences.  `controlLength_bytes` and `stringLength_bytes` say that both searches end where they
  end among the characters.
* Lengths.  `length?_eq` says that the length is that of the sequence `split?` cuts off, so a text can be
  cut there (`splitAt?_of_length?`), and `length?_append` that a sequence with something after it keeps its
  length whatever comes after it.
-/

namespace LineEditor

/-! ## Bytes -/

namespace Text

/-- The bytes of a text in UTF-8. -/
def bytes (text : Text) : List UInt8 :=
  text.flatMap String.utf8EncodeChar

@[simp] theorem bytes_nil : bytes [] = [] := rfl

@[simp] theorem bytes_cons (c : Char) (text : Text) :
    bytes (c :: text) = String.utf8EncodeChar c ++ bytes text :=
  List.flatMap_cons

@[simp] theorem length_bytes (text : Text) : text.bytes.length = text.size := by
  induction text with
  | nil => rfl
  | cons c text ih =>
    rw [bytes_cons, List.length_append, ih, String.length_utf8EncodeChar, size_cons]

/-- A character below `0x80` is a single byte. -/
theorem encode_of_lt {c : Char} (h : c.toNat < 0x80) :
    String.utf8EncodeChar c = [UInt8.ofNat c.toNat] := by
  have hle : c.val.toNat ≤ 0x7F := Nat.le_of_lt_succ h
  rw [String.utf8EncodeChar, if_pos hle]
  rfl

theorem size_cons_of_lt {c : Char} (h : c.toNat < 0x80) (text : Text) :
    size (c :: text) = 1 + text.size := by
  rw [size_cons, ← String.length_utf8EncodeChar, encode_of_lt h, List.length_singleton]

/-- Every byte of any other character is from `0x80` on. -/
theorem le_of_mem_encode {c : Char} {b : UInt8} (h : 0x80 ≤ c.toNat)
    (hb : b ∈ String.utf8EncodeChar c) : 0x80 ≤ b.toNat := by
  have hlt : 0x7F < c.val.toNat := h
  suffices hall : ∀ b ∈ String.utf8EncodeChar c, 0x80 ≤ b.toNat from hall b hb
  rw [String.utf8EncodeChar, if_neg (Nat.not_le.2 hlt)]
  -- a leading byte is at least `0xC0`, and each byte after it at least `0x80`
  split_ifs
  all_goals
    simp only [List.forall_mem_cons, List.not_mem_nil, false_imp_iff, implies_true, and_true,
      UInt8.toNat_ofNat']
    omega

/-- The first byte of a character is that of a character below `0x80` only if they are the same. -/
theorem first_eq_iff {c a : Char} {b : UInt8} {more : List UInt8}
    (h : String.utf8EncodeChar c = b :: more) (ha : a.toNat < 0x80) :
    b = UInt8.ofNat a.toNat ↔ c = a := by
  rw [← UInt8.toNat_inj, UInt8.toNat_ofNat', ← Char.toNat_inj]
  by_cases hc : c.toNat < 0x80
  · rw [encode_of_lt hc] at h
    obtain ⟨rfl, -⟩ := List.cons.inj h
    rw [UInt8.toNat_ofNat']
    omega
  · have hb : 0x80 ≤ b.toNat := le_of_mem_encode (Nat.not_lt.1 hc) (h ▸ List.mem_cons_self)
    omega

theorem exists_encode_eq_cons (c : Char) : ∃ b more, String.utf8EncodeChar c = b :: more :=
  List.exists_cons_of_ne_nil String.utf8EncodeChar_ne_nil

/-- A text begins with the byte of a character below `0x80` exactly if it begins with the character. -/
theorem head?_bytes_eq_iff (text : Text) {a : Char} (ha : a.toNat < 0x80) :
    text.bytes.head? = some (UInt8.ofNat a.toNat) ↔ text.head? = some a := by
  cases text with
  | nil => simp
  | cons c text =>
    obtain ⟨b, more, hencode⟩ := exists_encode_eq_cons c
    rw [bytes_cons, hencode, List.cons_append, List.head?_cons, List.head?_cons, Option.some.injEq,
      Option.some.injEq, first_eq_iff hencode ha]

end Text

/-! ## Ends of sequences -/

namespace Escape

/-- Whether `b` ends a control sequence. -/
def isFinalByte (b : UInt8) : Bool :=
  0x40 ≤ b.toNat && b.toNat ≤ 0x7E

/-- Whether `b` after the byte of the escape character begins a string sequence. -/
def opensStringByte (b : UInt8) : Bool :=
  b = 0x5D || b = 0x50 || b = 0x5F || b = 0x5E

/-- How many bytes the rest of a control sequence has. -/
def controlLength (bytes : List UInt8) : Nat :=
  match bytes.findIdx? isFinalByte with
  | some i => i + 1
  | none => bytes.length

/-- How many bytes the rest of a string sequence has. -/
def stringLength : List UInt8 → Nat
  | [] => 0
  | b :: rest =>
    if b = 0x07 then 1
    else if b = 0x1B && rest.head? = some 0x5C then 2
    else stringLength rest + 1

theorem lt_of_isFinal {c : Char} (h : isFinal c = true) : c.toNat < 0x80 := by
  simp only [isFinal, Bool.and_eq_true, decide_eq_true_eq] at h
  omega

theorem isFinalByte_ofNat {c : Char} (hc : c.toNat < 0x80) :
    isFinalByte (UInt8.ofNat c.toNat) = isFinal c := by
  rw [isFinalByte, UInt8.toNat_ofNat', Nat.mod_eq_of_lt (by omega), isFinal]

/-- No byte of a character that does not end a control sequence ends it. -/
theorem isFinalByte_of_mem {c : Char} {b : UInt8} (hb : b ∈ String.utf8EncodeChar c)
    (hc : isFinal c = false) : isFinalByte b = false := by
  by_cases hlow : c.toNat < 0x80
  · rw [Text.encode_of_lt hlow, List.mem_singleton] at hb
    rw [hb, isFinalByte_ofNat hlow, hc]
  · have hle := Text.le_of_mem_encode (Nat.not_lt.1 hlow) hb
    simp only [isFinalByte, Bool.and_eq_false_iff, decide_eq_false_iff_not]
    omega

theorem controlLength_cons {b : UInt8} (h : isFinalByte b = true) (rest : List UInt8) :
    controlLength (b :: rest) = 1 := by
  rw [controlLength, List.findIdx?_cons, if_pos h]

theorem controlLength_append {left : List UInt8} (h : ∀ b ∈ left, isFinalByte b = false)
    (right : List UInt8) : controlLength (left ++ right) = left.length + controlLength right := by
  rw [controlLength, List.findIdx?_append, List.findIdx?_eq_none_iff.2 h, controlLength]
  cases right.findIdx? isFinalByte with
  | none => simp
  | some i =>
    show i + left.length + 1 = left.length + (i + 1)
    omega

/-- Among the bytes a control sequence ends where it ends among the characters. -/
theorem controlLength_bytes (text : Text) :
    controlLength text.bytes = (splitControl text).1.size := by
  induction text with
  | nil => rfl
  | cons c text ih =>
    rw [Text.bytes_cons, splitControl]
    split
    · next hfinal =>
      have hlow := lt_of_isFinal hfinal
      rw [Text.encode_of_lt hlow, List.singleton_append,
        controlLength_cons ((isFinalByte_ofNat hlow).trans hfinal), Text.size_cons_of_lt hlow]
      rfl
    · next hfinal =>
      rw [controlLength_append fun b hb => isFinalByte_of_mem hb (by simpa using hfinal), ih,
        String.length_utf8EncodeChar]
      rfl

theorem stringLength_append {left : List UInt8} (h : ∀ b ∈ left, 0x80 ≤ b.toNat)
    (right : List UInt8) : stringLength (left ++ right) = left.length + stringLength right := by
  induction left with
  | nil => simp
  | cons b left ih =>
    obtain ⟨hb, hleft⟩ := List.forall_mem_cons.1 h
    have hbell : b ≠ 0x07 := by
      intro heq
      simp [heq] at hb
    have hescape : b ≠ 0x1B := by
      intro heq
      simp [heq] at hb
    rw [List.cons_append, stringLength, if_neg hbell, if_neg (by simp [hescape]), ih hleft,
      List.length_cons]
    omega

/-- Among the bytes a string sequence ends where it ends among the characters. -/
theorem stringLength_bytes (text : Text) :
    stringLength text.bytes = (splitString text).1.size := by
  induction text with
  | nil => rfl
  | cons c text ih =>
    rw [Text.bytes_cons, splitString]
    by_cases hlow : c.toNat < 0x80
    · have hencode := Text.encode_of_lt hlow
      have hbell : UInt8.ofNat c.toNat = 0x07 ↔ c = bellChar :=
        Text.first_eq_iff (a := bellChar) hencode (by decide)
      have hescape : UInt8.ofNat c.toNat = 0x1B ↔ c = escapeChar :=
        Text.first_eq_iff (a := escapeChar) hencode (by decide)
      have hslash : (Text.bytes text).head? = some 0x5C ↔ text.head? = some '\\' :=
        Text.head?_bytes_eq_iff text (a := '\\') (by decide)
      rw [hencode, List.singleton_append, stringLength]
      simp only [hbell, hescape, hslash, ih]
      split
      · rw [Text.size_cons_of_lt hlow]
        rfl
      · split
        · rw [Text.size_cons_of_lt hlow]
          rfl
        · rw [Text.size_cons_of_lt hlow, Nat.add_comm]
    · -- a longer character holds neither a bell nor an escape character
      have hhigh := Nat.not_lt.1 hlow
      have hbell : c ≠ bellChar := by
        rintro rfl
        exact absurd hhigh (by decide)
      have hescape : c ≠ escapeChar := by
        rintro rfl
        exact absurd hhigh (by decide)
      rw [if_neg hbell, if_neg (by simp [hescape]),
        stringLength_append fun b hb => Text.le_of_mem_encode hhigh hb, ih,
        String.length_utf8EncodeChar]
      rfl

/-! ## Lengths -/

/-- How many bytes the escape sequence has that a text begins with, if it begins with one.  The end is
looked for among the bytes; only the character after an escape character that opens nothing is taken as
a character. -/
def length? (text : Text) : Option Nat :=
  if text.bytes.head? ≠ some 0x1B then none
  else
    match text.bytes.tail with
    | [] => some 1
    | b :: rest =>
      if b = 0x5B then some (controlLength rest + 2)
      else if opensStringByte b then some (stringLength rest + 2)
      else (text.splitAt? 1).map fun parts => parts.2.head?.elim 1 fun c => c.utf8Size + 1

theorem opensStringByte_eq {c : Char} {b : UInt8} {more : List UInt8}
    (h : String.utf8EncodeChar c = b :: more) : opensStringByte b = opensString c := by
  have hbracket : b = 0x5D ↔ c = ']' := Text.first_eq_iff (a := ']') h (by decide)
  have hp : b = 0x50 ↔ c = 'P' := Text.first_eq_iff (a := 'P') h (by decide)
  have hline : b = 0x5F ↔ c = '_' := Text.first_eq_iff (a := '_') h (by decide)
  have hcaret : b = 0x5E ↔ c = '^' := Text.first_eq_iff (a := '^') h (by decide)
  simp only [opensStringByte, opensString, hbracket, hp, hline, hcaret]

theorem lt_of_opensString {c : Char} (h : opensString c = true) : c.toNat < 0x80 := by
  simp only [opensString, Bool.or_eq_true, decide_eq_true_eq] at h
  obtain ((rfl | rfl) | rfl) | rfl := h
  all_goals decide

/-- After an escape character each kind of sequence has the length that is read off its bytes. -/
theorem length?_escapeChar_cons (c : Char) (rest : Text) :
    length? (escapeChar :: c :: rest) = some ((splitTail (c :: rest)).1.size + 1) := by
  obtain ⟨b, more, hencode⟩ := Text.exists_encode_eq_cons c
  have hbytes : Text.bytes (escapeChar :: c :: rest) = 0x1B :: b :: (more ++ Text.bytes rest) := by
    rw [Text.bytes_cons, Text.bytes_cons, hencode]
    rfl
  have hmore : c.toNat < 0x80 → more = [] := by
    intro hlow
    rw [Text.encode_of_lt hlow] at hencode
    exact (List.cons.inj hencode).2.symm
  have hbracket : b = 0x5B ↔ c = '[' := Text.first_eq_iff (a := '[') hencode (by decide)
  rw [length?, hbytes, List.head?_cons, if_neg (not_not.2 rfl), List.tail_cons, splitTail]
  dsimp only
  by_cases hcontrol : c = '['
  · have hlow : c.toNat < 0x80 := by rw [hcontrol]; decide
    rw [if_pos (hbracket.2 hcontrol), if_pos hcontrol, hmore hlow, List.nil_append,
      controlLength_bytes, Text.size_cons_of_lt hlow]
    congr 1
    omega
  · rw [if_neg (mt hbracket.1 hcontrol), if_neg hcontrol, opensStringByte_eq hencode]
    by_cases hstring : opensString c = true
    · have hlow := lt_of_opensString hstring
      rw [if_pos hstring, if_pos hstring, hmore hlow, List.nil_append, stringLength_bytes,
        Text.size_cons_of_lt hlow]
      congr 1
      omega
    · have hcut : Text.splitAt? (escapeChar :: c :: rest) 1 = some ([escapeChar], c :: rest) :=
        Text.splitAt?_append [escapeChar] (c :: rest)
      rw [if_neg hstring, if_neg hstring, hcut]
      rfl

/-- The length read off the bytes is that of the sequence that is cut off. -/
theorem length?_eq (text : Text) :
    length? text = (split? text).map fun parts => parts.1.size := by
  have hfirst : text.bytes.head? = some 0x1B ↔ text.head? = some escapeChar :=
    Text.head?_bytes_eq_iff text (a := escapeChar) (by decide)
  by_cases hescape : text.head? = some escapeChar
  · obtain ⟨rest, rfl⟩ := List.head?_eq_some_iff.1 hescape
    cases rest with
    | nil => rfl
    | cons c rest =>
      rw [length?_escapeChar_cons, split?, if_pos rfl, Option.map_some, Text.size_cons,
        Nat.add_comm]
      rfl
  · rw [length?, if_pos (mt hfirst.1 hescape), (split?_eq_none_iff text).2 hescape]
    rfl

-- a bell ends the first sequence, and nothing ends the second
example : length? ['\x1b', ']', 'é', '\x07', '>'] = some 5 := by decide

example : length? ['\x1b', '[', '1', '日'] = some 6 := by decide

theorem length?_eq_none_iff (text : Text) :
    length? text = none ↔ text.head? ≠ some escapeChar := by
  rw [length?_eq, Option.map_eq_none_iff, split?_eq_none_iff]

theorem splitAt?_of_split? {text sequence after : Text} (h : split? text = some (sequence, after)) :
    text.splitAt? sequence.size = some (sequence, after) :=
  Text.splitAt?_eq_some_iff.2 ⟨(split?_eq_append h).1, rfl⟩

/-- A text can be cut after its escape sequence, which leaves what `split?` leaves. -/
theorem splitAt?_of_length? {text : Text} {n : Nat} (h : length? text = some n) :
    ∃ sequence after, split? text = some (sequence, after) ∧ sequence.size = n ∧
      text.splitAt? n = some (sequence, after) := by
  rw [length?_eq, Option.map_eq_some_iff] at h
  obtain ⟨⟨sequence, after⟩, hsplit, rfl⟩ := h
  exact ⟨sequence, after, hsplit, rfl, splitAt?_of_split? hsplit⟩

theorem length?_append {text sequence after : Text} (h : split? text = some (sequence, after))
    (hafter : after ≠ []) (right : Text) : length? (sequence ++ right) = some sequence.size := by
  rw [length?_eq, split?_append h hafter right, Option.map_some]

end Escape

end LineEditor
