import CodeDeck.Text.Utf8

namespace CodeDeck.Text.Utf8

/-!
# Bytes that are read

Bytes are read as a text only if they are the bytes of that text: no overlong
form, no surrogate and no number past the last code point is let through. With
`decode_encode`, bytes are read exactly when they are the bytes of some text:
`decode_eq_ok_iff`.
-/

variable {byte first second third : UInt8} {rest after : List UInt8} {c : Char}
variable {lead low high code : Nat}

theorem le_of_continues
    (isContinued : continues byte low high = true) :
    low ≤ byte.toNat ∧ byte.toNat ≤ high := by
  simpa [continues] using isContinued

/-- A byte that continues a sequence carries the six bits that it carries. -/
theorem continuation_of_payload
    {bits : Nat}
    (above : 0x80 ≤ byte.toNat)
    (below : byte.toNat ≤ 0xBF)
    (carries : bits % 64 = payload byte) :
    continuation bits = byte := by
  rw [← UInt8.toNat_inj, toNat_continuation, carries, payload]
  omega

theorem ofNat_of_toNat
    (same : code = byte.toNat) :
    UInt8.ofNat code = byte := by
  rw [same, UInt8.ofNat_toNat]

/-- The number of a character that is made from a code point. -/
theorem toNat_ofNat
    (valid : code < 0xD800 ∨ 0xDFFF < code ∧ code < 0x110000) :
    (Char.ofNat code).toNat = code := by
  rw [Char.ofNat, dif_pos valid]
  rfl

/-! ## Sequences by their length -/

theorem encodeChar_one
    (small : byte.toNat < 0x80) :
    encodeChar (Char.ofNat byte.toNat) = [byte] := by
  rw [encodeChar, toNat_ofNat (by omega)]
  rw [if_pos small, UInt8.ofNat_toNat]

theorem encodeChar_two
    (isCode : code = lead * 64 + payload first)
    (byteLead : byte.toNat = 0xC0 + lead)
    (range : 0x80 ≤ code ∧ code < 0x800)
    (isFirst : 0x80 ≤ first.toNat ∧ first.toNat ≤ 0xBF) :
    encodeChar (Char.ofNat code) = [byte, first] := by
  have bits : payload first < 64 := Nat.mod_lt _ (by decide)
  rw [encodeChar, toNat_ofNat (by omega)]
  rw [if_neg (by omega), if_pos (by omega)]
  rw [@ofNat_of_toNat byte _ (by omega),
    continuation_of_payload isFirst.1 isFirst.2 (by omega)]

theorem encodeChar_three
    (isCode : code = (lead * 64 + payload first) * 64 + payload second)
    (byteLead : byte.toNat = 0xE0 + lead)
    (range : 0x800 ≤ code ∧ code < 0x10000)
    (noSurrogate : code < 0xD800 ∨ 0xDFFF < code)
    (isFirst : 0x80 ≤ first.toNat ∧ first.toNat ≤ 0xBF)
    (isSecond : 0x80 ≤ second.toNat ∧ second.toNat ≤ 0xBF) :
    encodeChar (Char.ofNat code) = [byte, first, second] := by
  have firstBits : payload first < 64 := Nat.mod_lt _ (by decide)
  have secondBits : payload second < 64 := Nat.mod_lt _ (by decide)
  rw [encodeChar, toNat_ofNat (by omega)]
  rw [if_neg (by omega), if_neg (by omega), if_pos (by omega)]
  rw [@ofNat_of_toNat byte _ (by omega),
    continuation_of_payload isFirst.1 isFirst.2 (by omega),
    continuation_of_payload isSecond.1 isSecond.2 (by omega)]

theorem encodeChar_four
    (isCode :
      code = ((lead * 64 + payload first) * 64 + payload second) * 64 + payload third)
    (byteLead : byte.toNat = 0xF0 + lead)
    (range : 0x10000 ≤ code ∧ code < 0x110000)
    (isFirst : 0x80 ≤ first.toNat ∧ first.toNat ≤ 0xBF)
    (isSecond : 0x80 ≤ second.toNat ∧ second.toNat ≤ 0xBF)
    (isThird : 0x80 ≤ third.toNat ∧ third.toNat ≤ 0xBF) :
    encodeChar (Char.ofNat code) = [byte, first, second, third] := by
  have firstBits : payload first < 64 := Nat.mod_lt _ (by decide)
  have secondBits : payload second < 64 := Nat.mod_lt _ (by decide)
  have thirdBits : payload third < 64 := Nat.mod_lt _ (by decide)
  rw [encodeChar, toNat_ofNat (by omega)]
  rw [if_neg (by omega), if_neg (by omega), if_neg (by omega)]
  rw [@ofNat_of_toNat byte _ (by omega),
    continuation_of_payload isFirst.1 isFirst.2 (by omega),
    continuation_of_payload isSecond.1 isSecond.2 (by omega),
    continuation_of_payload isThird.1 isThird.2 (by omega)]

/-! ## What a step reads -/

theorem exists_of_readSequence_one
    (read : readSequence lead low high 1 rest = .ok (c, after)) :
    ∃ first,
      rest = first :: after ∧
        (low ≤ first.toNat ∧ first.toNat ≤ high) ∧
        c = Char.ofNat (lead * 64 + payload first) := by
  match rest with
  | [] => simp [readSequence] at read
  | first :: rest =>
      rw [readSequence] at read
      split at read
      · rename_i isFirst
        cases read
        exact ⟨first, rfl, le_of_continues isFirst, rfl⟩
      · contradiction

theorem exists_of_readSequence_two
    (read : readSequence lead low high 2 rest = .ok (c, after)) :
    ∃ first second,
      rest = first :: second :: after ∧
        (low ≤ first.toNat ∧ first.toNat ≤ high) ∧
        (0x80 ≤ second.toNat ∧ second.toNat ≤ 0xBF) ∧
        c = Char.ofNat ((lead * 64 + payload first) * 64 + payload second) := by
  match rest with
  | [] => simp [readSequence] at read
  | [first] =>
      rw [readSequence] at read
      split at read
      · contradiction
      · contradiction
  | first :: second :: rest =>
      rw [readSequence] at read
      split at read
      · rename_i isFirst
        split at read
        · rename_i isSecond
          cases read
          exact ⟨first, second, rfl, le_of_continues isFirst, le_of_continues isSecond, rfl⟩
        · contradiction
      · contradiction

theorem exists_of_readSequence_three
    (read : readSequence lead low high 3 rest = .ok (c, after)) :
    ∃ first second third,
      rest = first :: second :: third :: after ∧
        (low ≤ first.toNat ∧ first.toNat ≤ high) ∧
        (0x80 ≤ second.toNat ∧ second.toNat ≤ 0xBF) ∧
        (0x80 ≤ third.toNat ∧ third.toNat ≤ 0xBF) ∧
        c = Char.ofNat
          (((lead * 64 + payload first) * 64 + payload second) * 64 + payload third) := by
  match rest with
  | [] => simp [readSequence] at read
  | [first] =>
      simp only [readSequence] at read
      split at read
      · contradiction
      · contradiction
  | [first, second] =>
      simp only [readSequence] at read
      split at read
      · split at read
        · contradiction
        · contradiction
      · contradiction
  | first :: second :: third :: rest =>
      simp only [readSequence] at read
      split at read
      · rename_i isFirst
        split at read
        · rename_i isSecond
          split at read
          · rename_i isThird
            cases read
            exact ⟨first, second, third, rfl, le_of_continues isFirst, le_of_continues isSecond,
              le_of_continues isThird, rfl⟩
          · contradiction
        · contradiction
      · contradiction

theorem eq_append_of_readSequence_one
    (read : readSequence lead low high 1 rest = .ok (c, after))
    (byteLead : byte.toNat = 0xC0 + lead)
    (leads : 2 ≤ lead ∧ lead < 32)
    (range : 0x80 ≤ low ∧ high ≤ 0xBF) :
    byte :: rest = encodeChar c ++ after := by
  obtain ⟨first, rfl, isFirst, rfl⟩ := exists_of_readSequence_one read
  have bits : payload first = first.toNat % 64 := rfl
  rw [encodeChar_two rfl byteLead (by omega) (by omega)]
  rfl

/-- The ranges of the second byte keep overlong forms and surrogates out. -/
theorem eq_append_of_readSequence_two
    (read : readSequence lead low high 2 rest = .ok (c, after))
    (byteLead : byte.toNat = 0xE0 + lead)
    (leads : lead < 16)
    (range : 0x80 ≤ low ∧ high ≤ 0xBF)
    (noOverlong : lead = 0 → 0xA0 ≤ low)
    (noSurrogate : lead = 13 → high ≤ 0x9F) :
    byte :: rest = encodeChar c ++ after := by
  obtain ⟨first, second, rfl, isFirst, isSecond, rfl⟩ := exists_of_readSequence_two read
  have firstBits : payload first = first.toNat % 64 := rfl
  have secondBits : payload second = second.toNat % 64 := rfl
  rw [encodeChar_three rfl byteLead (by omega) (by omega) (by omega) isSecond]
  rfl

/-- The ranges of the second byte keep overlong forms and numbers past the last one out. -/
theorem eq_append_of_readSequence_three
    (read : readSequence lead low high 3 rest = .ok (c, after))
    (byteLead : byte.toNat = 0xF0 + lead)
    (leads : lead ≤ 4)
    (range : 0x80 ≤ low ∧ high ≤ 0xBF)
    (noOverlong : lead = 0 → 0x90 ≤ low)
    (notPast : lead = 4 → high ≤ 0x8F) :
    byte :: rest = encodeChar c ++ after := by
  obtain ⟨first, second, third, rfl, isFirst, isSecond, isThird, rfl⟩ :=
    exists_of_readSequence_three read
  have firstBits : payload first = first.toNat % 64 := rfl
  have secondBits : payload second = second.toNat % 64 := rfl
  have thirdBits : payload third = third.toNat % 64 := rfl
  rw [encodeChar_four rfl byteLead (by omega) (by omega) isSecond isThird]
  rfl

/-- A character that is read has the bytes that are used up for it. -/
theorem eq_append_of_readChar
    (read : readChar byte rest = .ok (c, after)) :
    byte :: rest = encodeChar c ++ after := by
  rw [readChar] at read
  split at read
  · rename_i small
    cases read
    rw [encodeChar_one small]
    rfl
  split at read
  · contradiction
  split at read
  · exact eq_append_of_readSequence_one read (by omega) (by omega) (by decide)
  split at read
  · exact eq_append_of_readSequence_two read (by omega) (by decide) (by decide) (by simp) (by simp)
  split at read
  · exact eq_append_of_readSequence_two read (by omega) (by decide) (by decide) (by simp) (by simp)
  split at read
  · exact eq_append_of_readSequence_two read (by omega) (by omega) (by decide) (by omega) (by omega)
  split at read
  · exact eq_append_of_readSequence_three read (by omega) (by decide) (by decide) (by simp)
      (by simp)
  split at read
  · exact eq_append_of_readSequence_three read (by omega) (by omega) (by decide) (by omega)
      (by omega)
  split at read
  · exact eq_append_of_readSequence_three read (by omega) (by decide) (by decide) (by simp)
      (by simp)
  · contradiction

/-! ## Whole texts -/

theorem exists_of_decodeFrom_cons
    {start : Nat}
    {chars : List Char}
    (read : decodeFrom start (byte :: rest) = .ok chars) :
    ∃ c after others next,
      readChar byte rest = .ok (c, after) ∧
        decodeFrom next after = .ok others ∧
        chars = c :: others := by
  rw [decodeFrom] at read
  split at read
  · contradiction
  · rename_i c after step
    cases found : decodeFrom (start + (rest.length - after.length) + 1) after with
    | error error =>
        rw [found] at read
        contradiction
    | ok others =>
        rw [found] at read
        cases read
        exact ⟨c, after, others, _, step, found, rfl⟩

theorem eq_encode_of_decodeFrom
    {start : Nat}
    {bytes : List UInt8}
    {chars : List Char}
    (read : decodeFrom start bytes = .ok chars) :
    bytes = encode chars := by
  induction chars generalizing start bytes with
  | nil =>
      cases bytes with
      | nil => rfl
      | cons byte rest =>
          obtain ⟨c, after, others, next, -, -, isCons⟩ := exists_of_decodeFrom_cons read
          contradiction
  | cons c chars inductionHypothesis =>
      cases bytes with
      | nil =>
          rw [decodeFrom] at read
          exact absurd (Except.ok.inj read) (List.cons_ne_nil c chars).symm
      | cons byte rest =>
          obtain ⟨c, after, others, next, step, found, isCons⟩ := exists_of_decodeFrom_cons read
          cases isCons
          rw [eq_append_of_readChar step, inductionHypothesis found, encode, encode,
            List.flatMap_cons]

/-- Bytes are read as a text exactly when they are the bytes of that text. -/
theorem decode_eq_ok_iff {bytes : List UInt8} {chars : List Char} :
    decode bytes = .ok chars ↔ bytes = encode chars := by
  constructor
  · exact eq_encode_of_decodeFrom
  · rintro rfl
    exact decode_encode chars

end CodeDeck.Text.Utf8
