import GraphBatch.Url.Parser

/-!
# Encoded texts

A text is read back from its encoding if the percent sign is encoded too. Decoding leaves
a text as it is exactly if it has no encoded byte, and encoding does exactly if it has
nothing to encode.
-/

namespace GraphBatch.Url

open Text (hexValue? utf8Bytes toUtf8)

/-! ## Bytes -/

theorem utf8Bytes_lt (char : Char) : ∀ byte ∈ utf8Bytes char, byte < 256 := by
  have bound : char.toNat < 0x110000 := by
    have := char.valid
    unfold UInt32.isValidChar Nat.isValidChar at this
    unfold Char.toNat
    omega
  unfold utf8Bytes
  intro byte inside
  simp only at inside
  split at inside
  · simp only [List.mem_singleton] at inside
    omega
  · split at inside
    · simp only [List.mem_cons, List.not_mem_nil, or_false] at inside
      omega
    · split at inside
      · simp only [List.mem_cons, List.not_mem_nil, or_false] at inside
        omega
      · simp only [List.mem_cons, List.not_mem_nil, or_false] at inside
        omega

theorem length_utf8Bytes_pos (char : Char) : 0 < (utf8Bytes char).length := by
  unfold utf8Bytes
  simp only
  repeat' split
  all_goals exact Nat.succ_pos _

theorem hexValue?_upperHex (digit : Fin 16) : hexValue? (upperHex digit) = some digit.val := by
  revert digit
  decide

theorem percentDecode_encodedByte {byte : Nat} (bound : byte < 256) (rest : List Char) :
    percentDecode (encodedByte byte ++ rest) = byte :: percentDecode rest := by
  have high := hexValue?_upperHex ⟨byte / 16, by omega⟩
  have low := hexValue?_upperHex ⟨byte % 16, by omega⟩
  rw [encodedByte, List.cons_append, List.cons_append, List.cons_append, List.nil_append,
    percentDecode, high, low]
  simp only [List.cons.injEq, and_true]
  omega

theorem percentDecode_encodedBytes {bytes : List Nat} (bound : ∀ byte ∈ bytes, byte < 256)
    (rest : List Char) :
    percentDecode (bytes.flatMap encodedByte ++ rest) = bytes ++ percentDecode rest := by
  induction bytes with
  | nil => rfl
  | cons byte bytes ih =>
      obtain ⟨here, later⟩ := List.forall_mem_cons.mp bound
      rw [List.flatMap_cons, List.append_assoc, percentDecode_encodedByte here, ih later,
        List.cons_append]

theorem percentDecode_cons {char : Char} (differ : char ≠ '%') (rest : List Char) :
    percentDecode (char :: rest) = utf8Bytes char ++ percentDecode rest := by
  rw [percentDecode]
  rintro high low others rfl
  exact absurd rfl differ

/-! ## Encoding and decoding -/

theorem percentEncode_cons (isEncoded : Char → Bool) (char : Char) (rest : List Char) :
    percentEncode isEncoded (char :: rest) =
      (if isEncoded char then (utf8Bytes char).flatMap encodedByte else [char]) ++
        percentEncode isEncoded rest := by
  rw [percentEncode, List.flatMap_cons, percentEncode]

/-- What is read from an encoded text is what was encoded, if percent signs were. -/
theorem percentDecode_percentEncode {isEncoded : Char → Bool} (percent : isEncoded '%' = true)
    (chars : List Char) : percentDecode (percentEncode isEncoded chars) = toUtf8 chars := by
  induction chars with
  | nil => rfl
  | cons char rest ih =>
      rw [percentEncode_cons, toUtf8, List.flatMap_cons, ← toUtf8]
      cases encoded : isEncoded char with
      | true =>
          rw [if_pos rfl, percentDecode_encodedBytes (utf8Bytes_lt char), ih]
      | false =>
          have differ : char ≠ '%' := by
            rintro rfl
            rw [percent] at encoded
            cases encoded
          rw [if_neg Bool.false_ne_true, List.singleton_append, percentDecode_cons differ, ih]

/-- A text with nothing to encode stays as it is. -/
theorem percentEncode_of_clear {isEncoded : Char → Bool} {chars : List Char}
    (clear : ∀ char ∈ chars, isEncoded char = false) : percentEncode isEncoded chars = chars := by
  induction chars with
  | nil => rfl
  | cons char rest ih =>
      obtain ⟨here, later⟩ := List.forall_mem_cons.mp clear
      rw [percentEncode_cons, here, ih later]
      rfl

theorem length_encodedBytes (bytes : List Nat) :
    (bytes.flatMap encodedByte).length = 3 * bytes.length := by
  induction bytes with
  | nil => rfl
  | cons byte rest ih =>
      rw [List.flatMap_cons, List.length_append, ih, List.length_cons, encodedByte]
      simp only [List.length_cons, List.length_nil]
      omega

theorem length_le_percentEncode (isEncoded : Char → Bool) (chars : List Char) :
    chars.length ≤ (percentEncode isEncoded chars).length := by
  induction chars with
  | nil => exact Nat.le_refl 0
  | cons char rest ih =>
      have some_byte := length_utf8Bytes_pos char
      rw [percentEncode_cons, List.length_append, List.length_cons]
      cases isEncoded char with
      | true =>
          rw [if_pos rfl, length_encodedBytes]
          omega
      | false =>
          rw [if_neg Bool.false_ne_true, List.length_singleton]
          omega

theorem eq_nil_of_percentEncode {isEncoded : Char → Bool} {chars : List Char}
    (empty : percentEncode isEncoded chars = []) : chars = [] := by
  have short := length_le_percentEncode isEncoded chars
  rw [empty] at short
  exact List.eq_nil_of_length_eq_zero (Nat.le_zero.mp short)

/-- A text stays as it is exactly if nothing in it is encoded. -/
theorem percentEncode_eq_self_iff {isEncoded : Char → Bool} {chars : List Char} :
    percentEncode isEncoded chars = chars ↔ ∀ char ∈ chars, isEncoded char = false := by
  refine ⟨fun same => ?_, percentEncode_of_clear⟩
  induction chars with
  | nil => exact List.forall_mem_nil _
  | cons char rest ih =>
      rw [percentEncode_cons] at same
      cases encoded : isEncoded char with
      | true =>
          -- An encoded character takes three places at least, so the text grew.
          have grown := congrArg List.length same
          have some_byte := length_utf8Bytes_pos char
          have kept := length_le_percentEncode isEncoded rest
          rw [encoded, if_pos rfl, List.length_append, length_encodedBytes,
            List.length_cons] at grown
          omega
      | false =>
          rw [encoded, if_neg Bool.false_ne_true, List.singleton_append, List.cons.injEq] at same
          exact List.forall_mem_cons.mpr ⟨encoded, ih same.2⟩

/-- What stands in an encoded text: what is not encoded, percent signs and digits. -/
theorem mem_percentEncode {isEncoded : Char → Bool} {chars : List Char} {char : Char}
    (inside : char ∈ percentEncode isEncoded chars) :
    isEncoded char = false ∨ char = '%' ∨ ∃ digit : Fin 16, char = upperHex digit := by
  obtain ⟨source, _, inside⟩ := List.mem_flatMap.mp inside
  cases encoded : isEncoded source with
  | false =>
      rw [encoded, if_neg Bool.false_ne_true, List.mem_singleton] at inside
      exact Or.inl (inside ▸ encoded)
  | true =>
      rw [encoded, if_pos rfl] at inside
      obtain ⟨byte, among, inside⟩ := List.mem_flatMap.mp inside
      have bound := utf8Bytes_lt source byte among
      simp only [encodedByte, List.mem_cons, List.not_mem_nil, or_false] at inside
      rcases inside with rfl | rfl | rfl
      · exact Or.inr (Or.inl rfl)
      · exact Or.inr (Or.inr ⟨⟨byte / 16, by omega⟩, rfl⟩)
      · exact Or.inr (Or.inr ⟨⟨byte % 16, by omega⟩, rfl⟩)

/-- An encoded text without a percent sign is the text itself. -/
theorem eq_of_percentEncode {isEncoded : Char → Bool} {chars : List Char}
    (absent : '%' ∉ percentEncode isEncoded chars) : percentEncode isEncoded chars = chars := by
  refine percentEncode_of_clear fun char inside => Bool.eq_false_iff.mpr fun encoded => ?_
  refine absent (List.mem_flatMap.mpr ⟨char, inside, ?_⟩)
  rw [if_pos encoded]
  obtain ⟨byte, among⟩ := List.exists_mem_of_length_pos (length_utf8Bytes_pos char)
  exact List.mem_flatMap.mpr ⟨byte, among, List.mem_cons_self⟩

/-! ## Escapes -/

/-- Whether an encoded byte stands somewhere: a percent sign with two digits. -/
def hasEscape : List Char → Bool
  | '%' :: high :: low :: rest =>
      (hexValue? high).isSome && (hexValue? low).isSome || hasEscape (high :: low :: rest)
  | _ :: rest => hasEscape rest
  | [] => false

/-- A text without an escape is decoded as it is, and one with an escape loses bytes. -/
def Settled (chars : List Char) : Prop :=
  (hasEscape chars = false ∧ percentDecode chars = toUtf8 chars) ∨
    (hasEscape chars = true ∧ (percentDecode chars).length < (toUtf8 chars).length)

theorem Settled.length_le {chars : List Char} (settled : Settled chars) :
    (percentDecode chars).length ≤ (toUtf8 chars).length := by
  rcases settled with ⟨_, same⟩ | ⟨_, shorter⟩
  · exact Nat.le_of_eq (congrArg List.length same)
  · exact Nat.le_of_lt shorter

/-- A character that begins no escape changes nothing. -/
theorem Settled.cons {char : Char} {rest : List Char}
    (escapes : hasEscape (char :: rest) = hasEscape rest)
    (decodes : percentDecode (char :: rest) = utf8Bytes char ++ percentDecode rest)
    (settled : Settled rest) : Settled (char :: rest) := by
  rw [Settled, escapes, decodes, toUtf8, List.flatMap_cons, ← toUtf8, List.length_append,
    List.length_append]
  rcases settled with ⟨none, same⟩ | ⟨some, shorter⟩
  · exact Or.inl ⟨none, by rw [same]⟩
  · exact Or.inr ⟨some, Nat.add_lt_add_left shorter _⟩

theorem settled (chars : List Char) : Settled chars := by
  fun_induction percentDecode chars with
  | case1 high low rest high_value low_value is_low is_high ih =>
      have kept := ih.length_le
      refine Or.inr ⟨?_, ?_⟩
      · rw [hasEscape, is_high, is_low]
        rfl
      · have first := length_utf8Bytes_pos '%'
        have second := length_utf8Bytes_pos high
        have third := length_utf8Bytes_pos low
        rw [percentDecode, is_high, is_low]
        simp only [toUtf8, List.flatMap_cons, List.length_append, List.length_cons] at kept ⊢
        omega
  | case2 high low rest plain ih =>
      have digits : ((hexValue? high).isSome && (hexValue? low).isSome) = false := by
        cases is_high : hexValue? high with
        | none => rfl
        | some first =>
            cases is_low : hexValue? low with
            | none => rfl
            | some second => exact absurd is_low (plain first second is_high)
      refine .cons ?_ ?_ ih
      · rw [hasEscape, digits, Bool.false_or]
      · rw [percentDecode]
        split
        · rename_i first second is_high is_low
          exact absurd is_low (plain first second is_high)
        · rfl
  | case3 char rest plain ih =>
      refine .cons ?_ ?_ ih
      · rw [hasEscape]
        exact plain
      · rw [percentDecode]
        exact plain
  | case4 => exact Or.inl ⟨rfl, rfl⟩

/-- Decoding leaves a text as it is exactly if it has no escape. -/
theorem percentDecode_eq_iff (chars : List Char) :
    percentDecode chars = toUtf8 chars ↔ hasEscape chars = false := by
  rcases settled chars with ⟨none, same⟩ | ⟨some, shorter⟩
  · exact iff_of_true same none
  · rw [some]
    refine iff_of_false (fun same => ?_) Bool.noConfusion
    rw [same] at shorter
    exact Nat.lt_irrefl _ shorter

/-! ## Escaped texts -/

/-- What a URL writes for a text that is to be read from it: reserved characters and
percent signs are encoded. -/
def escape (text : String) : String :=
  String.ofList (percentEncode (fun char => encodedInUser char || char = '%') text.toList)

def IsClear (text : String) : Prop := ∀ char ∈ text.toList, encodedInUser char = false

theorem toList_escape (text : String) : (escape text).toList =
    percentEncode (fun char => encodedInUser char || char = '%') text.toList :=
  String.toList_ofList

theorem encodedInUser_upperHex (digit : Fin 16) : encodedInUser (upperHex digit) = false := by
  revert digit
  decide

theorem isClear_escape (text : String) : IsClear (escape text) := by
  intro char inside
  rw [toList_escape] at inside
  rcases mem_percentEncode inside with clear | rfl | ⟨digit, rfl⟩
  · exact (Bool.or_eq_false_iff.mp clear).1
  · decide +kernel
  · exact encodedInUser_upperHex digit

theorem percentDecode_escape (text : String) :
    percentDecode (escape text).toList = toUtf8 text.toList := by
  rw [toList_escape, percentDecode_percentEncode]
  decide

theorem escape_eq_self_iff (text : String) :
    escape text = text ↔ ∀ char ∈ text.toList, encodedInUser char = false ∧ char ≠ '%' := by
  rw [← String.toList_inj, toList_escape, percentEncode_eq_self_iff]
  refine forall₂_congr fun char _ => ?_
  rw [Bool.or_eq_false_iff, decide_eq_false_iff_not]

/-- Nothing else is escaped to a text without percent signs. -/
theorem eq_of_escape {text plain : String} (absent : '%' ∉ plain.toList)
    (same : escape text = plain) : text = plain := by
  subst same
  rw [toList_escape] at absent
  rw [← String.toList_inj, toList_escape, eq_of_percentEncode absent]

/-! ## Dots -/

theorem upperHex_ne (digit : Fin 16) :
    upperHex digit ≠ '%' ∧ upperHex digit ≠ 'e' ∧ (upperHex digit = '2' → digit = 2) ∧
      (upperHex digit = 'E' → digit = 14) := by
  revert digit
  decide

theorem plainDots_cons {char : Char} (differ : char ≠ '%') (rest : List Char) :
    plainDots (char :: rest) = char :: plainDots rest := by
  rw [plainDots]
  · rintro others rfl
    exact absurd rfl differ
  · rintro others rfl
    exact absurd rfl differ

theorem plainDots_encodedByte {byte : Nat} (bound : byte < 256) (differ : byte ≠ 0x2E)
    (rest : List Char) :
    plainDots (encodedByte byte ++ rest) = encodedByte byte ++ plainDots rest := by
  obtain ⟨high_percent, _, high_two, _⟩ := upperHex_ne ⟨byte / 16, by omega⟩
  obtain ⟨low_percent, low_small, _, low_fourteen⟩ := upperHex_ne ⟨byte % 16, by omega⟩
  have kept : plainDots ('%' :: upperHex (byte / 16) :: upperHex (byte % 16) :: rest) =
      '%' :: plainDots (upperHex (byte / 16) :: upperHex (byte % 16) :: rest) := by
    rw [plainDots]
    · rintro others - same
      exact low_small (List.cons.inj (List.cons.inj same).2).1
    · rintro others - same
      have two := Fin.mk.inj (high_two (List.cons.inj same).1)
      have fourteen := Fin.mk.inj (low_fourteen (List.cons.inj (List.cons.inj same).2).1)
      simp only [Nat.reduceMod] at two fourteen
      omega
  rw [encodedByte, List.cons_append, List.cons_append, List.cons_append, List.nil_append, kept,
    plainDots_cons high_percent, plainDots_cons low_percent]
  rfl

theorem plainDots_encodedBytes {bytes : List Nat}
    (plain : ∀ byte ∈ bytes, byte < 256 ∧ byte ≠ 0x2E) (rest : List Char) :
    plainDots (bytes.flatMap encodedByte ++ rest) =
      bytes.flatMap encodedByte ++ plainDots rest := by
  induction bytes with
  | nil => rfl
  | cons byte bytes ih =>
      obtain ⟨⟨bound, differ⟩, later⟩ := List.forall_mem_cons.mp plain
      rw [List.flatMap_cons, List.append_assoc, plainDots_encodedByte bound differ, ih later,
        List.append_assoc]

/-- No byte of another character is a dot's. -/
theorem utf8Bytes_ne_dot {char : Char} (differ : char ≠ '.') :
    ∀ byte ∈ utf8Bytes char, byte ≠ 0x2E := by
  have code : char.toNat ≠ 0x2E := fun same => differ (Char.toNat_inj.mp same)
  intro byte inside
  unfold utf8Bytes at inside
  simp only at inside
  split at inside
  · rw [List.mem_singleton] at inside
    omega
  · repeat' split at inside
    all_goals
      simp only [List.mem_cons, List.not_mem_nil, or_false] at inside
      omega

theorem plainDots_escape (text : String) :
    plainDots (escape text).toList = (escape text).toList := by
  rw [toList_escape]
  induction text.toList with
  | nil => rfl
  | cons char rest ih =>
      rw [percentEncode_cons]
      cases escaped : encodedInUser char || decide (char = '%') with
      | true =>
          have differ : char ≠ '.' := by
            rintro rfl
            revert escaped
            decide
          have plain : ∀ byte ∈ utf8Bytes char, byte < 256 ∧ byte ≠ 0x2E := fun byte inside =>
            ⟨utf8Bytes_lt char byte inside, utf8Bytes_ne_dot differ byte inside⟩
          rw [if_pos rfl, plainDots_encodedBytes plain, ih]
      | false =>
          have differ := of_decide_eq_false (Bool.or_eq_false_iff.mp escaped).2
          rw [if_neg Bool.false_ne_true, List.singleton_append, plainDots_cons differ, ih]

end GraphBatch.Url
