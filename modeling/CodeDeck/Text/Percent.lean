import CodeDeck.Number.Digits

namespace CodeDeck.Text.Percent

/-!
# Percent coding

Bytes in the part of an address after its `#`. Letters, digits and the marks
`-_.!~*'()` stand for themselves; every other byte is written as `%` and two
upper-case hexadecimal digits. Decoding gives the bytes back: `decode_encode`.
-/

/-- The bytes that stand for themselves: ASCII letters, digits and `-_.!~*'()`. -/
def isUnreserved (c : Char) : Bool :=
  c.isAlphanum || c == '-' || c == '_' || c == '.' || c == '!' || c == '~' || c == '*' ||
    c == '\'' || c == '(' || c == ')'

/-- The upper-case hexadecimal digit of a number below sixteen. -/
def hexDigit (n : Nat) : Char :=
  Char.ofNat (if n < 10 then 48 + n else 55 + n)

/-- One byte as it is written. -/
def encodeByte (byte : UInt8) : List Char :=
  let c := Char.ofNat byte.toNat
  if byte.toNat < 128 ∧ isUnreserved c then
    [c]
  else
    ['%', hexDigit (byte.toNat / 16), hexDigit (byte.toNat % 16)]

/-- Bytes as they are written. -/
def encode (bytes : List UInt8) : List Char :=
  bytes.flatMap encodeByte

/--
The bytes that a written form stands for; a `%` without two digits, and a character that
is no byte, are refused.
-/
def decode : List Char → Option (List UInt8)
  | [] => some []
  | '%' :: high :: low :: rest => do
      let high ← Digits.value? high
      let low ← Digits.value? low
      let bytes ← decode rest
      return UInt8.ofNat (high * 16 + low) :: bytes
  | c :: rest =>
      if c = '%' ∨ 128 ≤ c.toNat then
        none
      else do
        let bytes ← decode rest
        return UInt8.ofNat c.toNat :: bytes

theorem value?_hexDigit : ∀ n < 16, Digits.value? (hexDigit n) = some n := by
  decide

theorem isUnreserved_percent : isUnreserved '%' = false := by
  decide

/-- A character that is a byte and no percent sign is read as that byte. -/
theorem decode_cons
    {c : Char}
    (rest : List Char)
    (plain : c ≠ '%')
    (small : c.toNat < 128) :
    decode (c :: rest) = (decode rest).map (UInt8.ofNat c.toNat :: ·) := by
  rw [decode]
  · have bounded : ¬ 128 ≤ c.toNat := by omega
    simp only [plain, bounded, or_self, if_false]
    cases decode rest <;> rfl
  · intro high low after shape
    exact absurd shape plain

/-- Two digits behind a percent sign are read as one byte. -/
theorem decode_digits
    {high low : Nat}
    (rest : List Char)
    (highBound : high < 16)
    (lowBound : low < 16) :
    decode ('%' :: hexDigit high :: hexDigit low :: rest) =
      (decode rest).map (UInt8.ofNat (high * 16 + low) :: ·) := by
  rw [decode, value?_hexDigit high highBound, value?_hexDigit low lowBound]
  cases decode rest <;> rfl

/-- A written byte reads back, whatever follows it. -/
theorem decode_encodeByte_append (byte : UInt8) (rest : List Char) :
    decode (encodeByte byte ++ rest) = (decode rest).map (byte :: ·) := by
  have bound : byte.toNat < 256 := byte.toNat_lt
  unfold encodeByte
  simp only
  split
  · rename_i plain
    have valid : byte.toNat.isValidChar := Or.inl (by omega)
    have code : (Char.ofNat byte.toNat).toNat = byte.toNat := by
      rw [Char.ofNat, dif_pos valid]
      rfl
    have noPercent : Char.ofNat byte.toNat ≠ '%' := by
      intro percent
      have := plain.2
      rw [percent, isUnreserved_percent] at this
      contradiction
    rw [List.singleton_append, decode_cons rest noPercent (by omega), code, UInt8.ofNat_toNat]
  · rw [List.cons_append, List.cons_append, List.singleton_append,
      decode_digits rest (by omega) (by omega), Nat.div_add_mod', UInt8.ofNat_toNat]

/-- Written bytes read back. -/
theorem decode_encode (bytes : List UInt8) : decode (encode bytes) = some bytes := by
  induction bytes with
  | nil => rfl
  | cons byte rest inductionHypothesis =>
      rw [encode, List.flatMap_cons, decode_encodeByte_append]
      rw [encode] at inductionHypothesis
      rw [inductionHypothesis]
      rfl

end CodeDeck.Text.Percent
