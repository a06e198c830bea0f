namespace CodeDeck.Text.Utf8

/-!
# UTF-8

Characters as bytes and back. Reading is strict: overlong forms, surrogates,
numbers past the last code point and truncated sequences are refused, and the
refusal names the bytes at fault. The bytes of a text read back as that text:
`decode_encode`.
-/

/-- Why a byte sequence is no UTF-8. -/
inductive Fault where
  | invalidStart
  | invalidContinuation
  | unexpectedEnd
  deriving Repr, DecidableEq

/-- A refused byte sequence: its first byte, where it starts, and how many bytes are at fault. -/
structure DecodeError where
  byte : UInt8
  start : Nat
  length : Nat
  fault : Fault
  deriving Repr, DecidableEq

/-- The byte `10xxxxxx` that carries six bits of a code point. -/
def continuation (bits : Nat) : UInt8 :=
  UInt8.ofNat (0x80 + bits % 64)

/-- The bytes of one character. -/
def encodeChar (c : Char) : List UInt8 :=
  let code := c.toNat
  if code < 0x80 then
    [UInt8.ofNat code]
  else if code < 0x800 then
    [UInt8.ofNat (0xC0 + code / 64), continuation code]
  else if code < 0x10000 then
    [UInt8.ofNat (0xE0 + code / 4096), continuation (code / 64), continuation code]
  else
    [UInt8.ofNat (0xF0 + code / 262144), continuation (code / 4096), continuation (code / 64),
      continuation code]

/-- The bytes of a character list. -/
def encode (chars : List Char) : List UInt8 :=
  chars.flatMap encodeChar

/-- Whether a byte continues a sequence, and lies in a stated part of the continuation range. -/
def continues (byte : UInt8) (low high : Nat) : Bool :=
  low ≤ byte.toNat && byte.toNat ≤ high

/-- The six bits of a continuation byte. -/
def payload (byte : UInt8) : Nat :=
  byte.toNat % 64

/-- What one step of reading finds: a character, or how many bytes are at fault and why. -/
abbrev Step := Except (Nat × Fault) (Char × List UInt8)

/--
Read one sequence whose first byte announces `tail` more bytes.

The second byte has to lie between `low` and `high`, which is where overlong
forms, surrogates and numbers past the last code point are refused.
-/
def readSequence
    (lead low high : Nat)
    (tail : Nat)
    (rest : List UInt8) : Step :=
  match tail, rest with
  | _, [] => .error (1, .unexpectedEnd)
  | 1, b :: rest =>
      if continues b low high then
        .ok (Char.ofNat (lead * 64 + payload b), rest)
      else
        .error (1, .invalidContinuation)
  | 2, b :: rest =>
      if continues b low high then
        match rest with
        | [] => .error (2, .unexpectedEnd)
        | c :: rest =>
            if continues c 0x80 0xBF then
              .ok (Char.ofNat ((lead * 64 + payload b) * 64 + payload c), rest)
            else
              .error (2, .invalidContinuation)
      else
        .error (1, .invalidContinuation)
  | _, b :: rest =>
      if continues b low high then
        match rest with
        | [] => .error (2, .unexpectedEnd)
        | c :: rest =>
            if continues c 0x80 0xBF then
              match rest with
              | [] => .error (3, .unexpectedEnd)
              | d :: rest =>
                  if continues d 0x80 0xBF then
                    .ok (Char.ofNat
                      (((lead * 64 + payload b) * 64 + payload c) * 64 + payload d), rest)
                  else
                    .error (3, .invalidContinuation)
            else
              .error (2, .invalidContinuation)
      else
        .error (1, .invalidContinuation)

/-- Read the character that starts with `byte`. -/
def readChar (byte : UInt8) (rest : List UInt8) : Step :=
  let code := byte.toNat
  if code < 0x80 then
    .ok (Char.ofNat code, rest)
  else if code < 0xC2 then
    .error (1, .invalidStart)
  else if code < 0xE0 then
    readSequence (code - 0xC0) 0x80 0xBF 1 rest
  else if code = 0xE0 then
    readSequence 0 0xA0 0xBF 2 rest
  else if code = 0xED then
    readSequence 13 0x80 0x9F 2 rest
  else if code < 0xF0 then
    readSequence (code - 0xE0) 0x80 0xBF 2 rest
  else if code = 0xF0 then
    readSequence 0 0x90 0xBF 3 rest
  else if code < 0xF4 then
    readSequence (code - 0xF0) 0x80 0xBF 3 rest
  else if code = 0xF4 then
    readSequence 4 0x80 0x8F 3 rest
  else
    .error (1, .invalidStart)

/-- Every byte sequence that is read uses up at least its first byte. -/
theorem readSequence_length_le
    {lead low high tail : Nat}
    {rest after : List UInt8}
    {c : Char}
    (read : readSequence lead low high tail rest = .ok (c, after)) :
    after.length ≤ rest.length := by
  unfold readSequence at read
  split at read <;> (repeat' split at read) <;> simp_all <;> omega

/-- Reading a character leaves no more than the bytes that followed its first. -/
theorem readChar_length_le
    {byte : UInt8}
    {rest after : List UInt8}
    {c : Char}
    (read : readChar byte rest = .ok (c, after)) :
    after.length ≤ rest.length := by
  unfold readChar at read
  simp only at read
  split at read
  · simp_all
  · repeat' split at read
    all_goals first
      | exact readSequence_length_le read
      | simp at read

/-- Read characters to the end, the first byte standing at index `start` of the whole input. -/
def decodeFrom (start : Nat) (bytes : List UInt8) : Except DecodeError (List Char) :=
  match bytes with
  | [] => .ok []
  | byte :: rest =>
      match step : readChar byte rest with
      | .error (length, fault) => .error { byte, start, length, fault }
      | .ok (c, after) => do
          let chars ← decodeFrom (start + (rest.length - after.length) + 1) after
          return c :: chars
  termination_by bytes.length
  decreasing_by
    have shorter := readChar_length_le step
    simp only [List.length_cons]
    omega

/-- The text that bytes stand for. -/
def decode (bytes : List UInt8) : Except DecodeError (List Char) :=
  decodeFrom 0 bytes

theorem toNat_continuation (bits : Nat) : (continuation bits).toNat = 0x80 + bits % 64 := by
  simp only [continuation, UInt8.toNat_ofNat']
  omega

theorem payload_continuation (bits : Nat) : payload (continuation bits) = bits % 64 := by
  rw [payload, toNat_continuation]
  omega

theorem continues_continuation
    {bits low high : Nat}
    (above : low ≤ 0x80 + bits % 64)
    (below : 0x80 + bits % 64 ≤ high) :
    continues (continuation bits) low high = true := by
  simp [continues, toNat_continuation, above, below]

/-- Any byte that carries bits continues a sequence. -/
theorem continues_continuation_of_any (bits : Nat) :
    continues (continuation bits) 0x80 0xBF = true :=
  continues_continuation (by omega) (by omega)

theorem readSequence_one
    {lead low high first : Nat}
    (rest : List UInt8)
    (above : low ≤ 0x80 + first % 64)
    (below : 0x80 + first % 64 ≤ high) :
    readSequence lead low high 1 (continuation first :: rest) =
      .ok (Char.ofNat (lead * 64 + first % 64), rest) := by
  simp [readSequence, continues_continuation above below, payload_continuation]

theorem readSequence_two
    {lead low high first second : Nat}
    (rest : List UInt8)
    (above : low ≤ 0x80 + first % 64)
    (below : 0x80 + first % 64 ≤ high) :
    readSequence lead low high 2 (continuation first :: continuation second :: rest) =
      .ok (Char.ofNat ((lead * 64 + first % 64) * 64 + second % 64), rest) := by
  simp [readSequence, continues_continuation above below, continues_continuation_of_any,
    payload_continuation]

theorem readSequence_three
    {lead low high first second third : Nat}
    (rest : List UInt8)
    (above : low ≤ 0x80 + first % 64)
    (below : 0x80 + first % 64 ≤ high) :
    readSequence lead low high 3
        (continuation first :: continuation second :: continuation third :: rest) =
      .ok (Char.ofNat (((lead * 64 + first % 64) * 64 + second % 64) * 64 + third % 64), rest) := by
  simp [readSequence, continues_continuation above below, continues_continuation_of_any,
    payload_continuation]

/-- The bytes of a character are read as that character, whatever follows them. -/
theorem readChar_encodeChar_append (c : Char) (rest : List UInt8) :
    ∃ byte tail, encodeChar c = byte :: tail ∧ readChar byte (tail ++ rest) = .ok (c, rest) := by
  have valid : c.toNat < 0xD800 ∨ 0xDFFF < c.toNat ∧ c.toNat < 0x110000 := c.valid
  have same {code : Nat} (equal : code = c.toNat) : Char.ofNat code = c := by
    rw [equal, Char.ofNat_toNat]
  have lead {code : Nat} (small : code < 256) : (UInt8.ofNat code).toNat = code := by
    rw [UInt8.toNat_ofNat']
    omega
  unfold encodeChar
  simp only
  split
  · refine ⟨_, _, rfl, ?_⟩
    rw [readChar, lead (by omega)]
    simp_all
  · split
    · refine ⟨_, _, rfl, ?_⟩
      rw [readChar, lead (by omega)]
      rw [if_neg (by omega), if_neg (by omega), if_pos (by omega), List.singleton_append,
        readSequence_one rest (by omega) (by omega), same (by omega)]
    · split
      · refine ⟨_, _, rfl, ?_⟩
        rw [readChar, lead (by omega)]
        simp only [List.cons_append, List.nil_append]
        rw [if_neg (by omega), if_neg (by omega), if_neg (by omega)]
        split
        · rw [readSequence_two rest (by omega) (by omega), same (by omega)]
        · split
          · rw [readSequence_two rest (by omega) (by omega), same (by omega)]
          · rw [if_pos (by omega), readSequence_two rest (by omega) (by omega), same (by omega)]
      · refine ⟨_, _, rfl, ?_⟩
        rw [readChar, lead (by omega)]
        simp only [List.cons_append, List.nil_append]
        rw [if_neg (by omega), if_neg (by omega), if_neg (by omega), if_neg (by omega),
          if_neg (by omega), if_neg (by omega)]
        split
        · rw [readSequence_three rest (by omega) (by omega), same (by omega)]
        · split
          · rw [readSequence_three rest (by omega) (by omega), same (by omega)]
          · rw [if_pos (by omega), readSequence_three rest (by omega) (by omega),
              same (by omega)]

/-- The bytes of a text are read as that text from any index on. -/
theorem decodeFrom_encode (start : Nat) (chars : List Char) :
    decodeFrom start (encode chars) = .ok chars := by
  induction chars generalizing start with
  | nil => rw [encode, List.flatMap_nil, decodeFrom]
  | cons c chars inductionHypothesis =>
      obtain ⟨byte, tail, written, read⟩ := readChar_encodeChar_append c (encode chars)
      rw [encode, List.flatMap_cons, written, List.cons_append, decodeFrom]
      rw [encode] at read inductionHypothesis
      split
      · rename_i step
        rw [read] at step
        contradiction
      · rename_i step
        rw [read] at step
        cases step
        rw [inductionHypothesis]
        rfl

/-- The bytes of a text are read as that text. -/
theorem decode_encode (chars : List Char) : decode (encode chars) = .ok chars :=
  decodeFrom_encode 0 chars

/-- What the message of a refusal says about its cause. -/
def Fault.message : Fault → String
  | .invalidStart => "invalid start byte"
  | .invalidContinuation => "invalid continuation byte"
  | .unexpectedEnd => "unexpected end of data"

/-- Two lower-case hexadecimal digits of a byte. -/
def hexByte (byte : UInt8) : String :=
  let digits := Nat.toDigits 16 byte.toNat
  String.ofList (if digits.length < 2 then '0' :: digits else digits)

/-- The message of a refusal: one byte is shown with its value, several with their range. -/
def DecodeError.message (error : DecodeError) : String :=
  if error.length = 1 then
    "'utf-8' codec can't decode byte 0x" ++ hexByte error.byte ++ " in position " ++
      toString error.start ++ ": " ++ error.fault.message
  else
    "'utf-8' codec can't decode bytes in position " ++ toString error.start ++ "-" ++
      toString (error.start + error.length - 1) ++ ": " ++ error.fault.message

end CodeDeck.Text.Utf8
