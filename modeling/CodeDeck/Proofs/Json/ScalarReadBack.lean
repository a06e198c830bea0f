import CodeDeck.Json.Reader
import CodeDeck.Json.Writer
import CodeDeck.Proofs.Number.Decimal

namespace CodeDeck.Json

/-!
# Written scalars read back

A written string reads back one character at a time: each character is one
step of the reader, whether it is escaped or not. A written whole number reads
back when it has no more digits than a numeral may have and when what follows
it cannot go on as a number.
-/

theorem value?_hexDigit : ∀ n < 16, Digits.value? (hexDigit n) = some n := by
  decide

theorem codeUnit?_hexDigits
    (code : Nat)
    (small : code < 256) :
    codeUnit? '0' '0' (hexDigit (code / 16)) (hexDigit (code % 16)) = some code := by
  have zero : Digits.value? '0' = some 0 := by decide
  simp only [codeUnit?, zero, value?_hexDigit (code / 16) (by omega),
    value?_hexDigit (code % 16) (by omega), Option.bind_eq_bind, Option.bind_some,
    Option.pure_def, Option.some.injEq]
  omega

/-- A code escape below the surrogates stands for its character, whatever follows it. -/
theorem readCodeEscape_of_code
    {a b c d : Char}
    {code : Nat}
    {rest : List Char}
    (unit : codeUnit? a b c d = some code)
    (small : code < 0xD800)
    (more : rest ≠ []) :
    readCodeEscape (a :: b :: c :: d :: rest) = .char (Char.ofNat code) rest := by
  have noHigh : ¬ 0xD800 ≤ code := by omega
  rw [readCodeEscape.eq_def]
  simp only [unit]
  split
  · contradiction
  · contradiction
  · rename_i sameCode
    cases sameCode
    simp [noHigh]
  · rename_i sameCode _ _
    cases sameCode
    simp [noHigh]

theorem stringStep_plain
    {c : Char}
    (rest : List Char)
    (noQuote : c ≠ '"')
    (noBackslash : c ≠ '\\')
    (noControl : ¬ c.toNat < 32) :
    stringStep (c :: rest) = .char c rest := by
  rw [stringStep.eq_def]
  split
  · contradiction
  · rename_i shape
    injection shape with first _
    exact absurd first noQuote
  · rename_i shape
    injection shape with first _
    exact absurd first noBackslash
  · rename_i shape
    injection shape with first second
    subst first second
    simp [noControl]

/-- A written character is one step of reading a string, as long as the string goes on. -/
theorem stringStep_writeChar_append
    (c : Char)
    {rest : List Char}
    (more : rest ≠ []) :
    stringStep (writeChar c ++ rest) = .char c rest := by
  unfold writeChar
  split
  · subst c
    rfl
  split
  · subst c
    rfl
  split
  · subst c
    rfl
  split
  · subst c
    rfl
  split
  · subst c
    rfl
  split
  · subst c
    rfl
  split
  · subst c
    rfl
  split
  · rename_i control
    have unit := codeUnit?_hexDigits c.toNat (by omega)
    have step := readCodeEscape_of_code unit (by omega) more
    rw [Char.ofNat_toNat] at step
    exact step
  · exact stringStep_plain rest ‹_› ‹_› ‹_›

theorem writeChar_ne_nil (c : Char) : writeChar c ≠ [] := by
  unfold writeChar
  repeat' split
  all_goals simp

theorem length_le_length_written (chars : List Char) :
    chars.length ≤ (chars.flatMap writeChar).length := by
  induction chars with
  | nil => simp
  | cons c chars inductionHypothesis =>
      have first := List.length_pos_iff.mpr (writeChar_ne_nil c)
      simp only [List.flatMap_cons, List.length_append, List.length_cons]
      omega

/-- The loop of the reader undoes the writer, given a step for each character and the quote. -/
theorem stringLoop_written
    (chars before rest : List Char)
    {fuel : Nat}
    (enough : chars.length < fuel) :
    stringLoop fuel before (chars.flatMap writeChar ++ '"' :: rest) =
      .ok (before.reverse ++ chars, rest) := by
  induction chars generalizing before fuel with
  | nil =>
      obtain ⟨fuel, rfl⟩ := Nat.exists_eq_add_of_lt enough
      simp [stringLoop, stringStep]
  | cons c chars inductionHypothesis =>
      obtain ⟨fuel, rfl⟩ := Nat.exists_eq_add_one_of_ne_zero (Nat.ne_zero_of_lt enough)
      have more : chars.flatMap writeChar ++ '"' :: rest ≠ [] := by simp
      have step := stringStep_writeChar_append c more
      simp only [List.length_cons, Nat.add_lt_add_iff_right] at enough
      rw [List.flatMap_cons, List.append_assoc, stringLoop, step]
      simp only
      rw [inductionHypothesis (c :: before) enough]
      simp

/-- A written string whose opening quote has been read reads back up to its closing quote. -/
theorem readString_written
    (chars rest : List Char) :
    readString (chars.flatMap writeChar ++ '"' :: rest) = .ok (chars, rest) := by
  have longer := length_le_length_written chars
  rw [readString, stringLoop_written chars [] rest]
  · rfl
  · simp only [List.length_append, List.length_cons]
    omega

/-- What may follow a value inside a compact text: nothing, a comma or a closing bracket. -/
def EndsValue (rest : List Char) : Prop :=
  ∀ c ∈ rest.head?, c = ',' ∨ c = ']' ∨ c = '\x7d'

@[simp] theorem endsValue_nil : EndsValue [] := by
  simp [EndsValue]

@[simp] theorem endsValue_comma (rest : List Char) : EndsValue (',' :: rest) := by
  simp [EndsValue]

@[simp] theorem endsValue_bracket (rest : List Char) : EndsValue (']' :: rest) := by
  simp [EndsValue]

@[simp] theorem endsValue_brace (rest : List Char) : EndsValue ('\x7d' :: rest) := by
  simp [EndsValue]

/-- What follows a value does not go on as a numeral. -/
theorem EndsValue.noDigit
    {rest : List Char}
    (ended : EndsValue rest) :
    ∀ c ∈ rest.head?, Decimal.isDigit c = false := by
  intro c member
  rcases ended c member with rfl | rfl | rfl <;> decide

theorem EndsValue.readFraction
    {rest : List Char}
    (ended : EndsValue rest) :
    Json.readFraction rest = ([], rest) := by
  cases rest with
  | nil => rfl
  | cons c rest =>
      rcases ended c rfl with rfl | rfl | rfl <;> rfl

theorem EndsValue.readExponent
    {rest : List Char}
    (ended : EndsValue rest) :
    Json.readExponent rest = (none, rest) := by
  cases rest with
  | nil => rfl
  | cons c rest =>
      rcases ended c rfl with rfl | rfl | rfl <;> rfl

theorem readWhole_digits
    (n : Nat)
    {rest : List Char}
    (ended : EndsValue rest) :
    readWhole (Decimal.digits n ++ rest) = (Decimal.digits n, rest) := by
  obtain ⟨first, more, shape, _⟩ := Decimal.exists_digits n
  -- A leading zero ends the whole part at once, so it must be all of the digits.
  by_cases zero : first = '0'
  · subst first
    have none := Decimal.eq_zero_of_digits_zero shape
    subst n
    rfl
  · rw [shape, List.cons_append, readWhole]
    · rw [← List.cons_append, ← shape, Decimal.takeWhile_digits_append n ended.noDigit,
        Decimal.dropWhile_digits_append n ended.noDigit]
    · intro after same
      injection same with first _
      exact absurd first zero

/-- Decimal digits read back as the number, with the sign in front of them. -/
theorem readNumber_digits
    (start : List Char)
    (negative : Bool)
    {n : Nat}
    {rest : List Char}
    (short : (Decimal.digits n).length ≤ Numeral.maxDigits)
    (ended : EndsValue rest) :
    readNumber start negative (Decimal.digits n ++ rest) =
      .ok (.int (if negative then -(n : Int) else n), rest) := by
  have notLong : ¬ Numeral.maxDigits < (Decimal.digits n).length := by omega
  simp [readNumber, readWhole_digits n ended, ended.readFraction, ended.readExponent,
    Decimal.digits_ne_nil, notLong, Decimal.toNat_digits]

theorem noDigit_of_mem_constants :
    ∀ constant ∈ constants,
      2 ≤ constant.1.length ∧ (constant.1.take 2).any Decimal.isDigit = false := by
  decide

/-- A text with a digit among its first two characters starts with no constant. -/
theorem findConstant_eq_none
    {chars : List Char}
    (digit : (chars.take 2).any Decimal.isDigit = true) :
    constants.find? (fun constant => constant.1.isPrefixOf chars) = none := by
  rw [List.find?_eq_none]
  intro constant member found
  obtain ⟨long, noDigit⟩ := noDigit_of_mem_constants constant member
  obtain ⟨rest, shape⟩ := List.isPrefixOf_iff_prefix.mp found
  have sameStart : chars.take 2 = constant.1.take 2 := by
    rw [← shape, List.take_append_of_le_length long]
  rw [sameStart, noDigit] at digit
  contradiction

theorem readScalar_of_digit
    {c : Char}
    (rest : List Char)
    (digit : Decimal.isDigit c = true) :
    readScalar (c :: rest) = readNumber (c :: rest) false (c :: rest) := by
  have noConstant : constants.find? (fun constant => constant.1.isPrefixOf (c :: rest)) = none :=
    findConstant_eq_none (by simp [digit])
  rw [readScalar, noConstant]
  intro after shape
  injection shape with first _
  subst c
  simp [Decimal.isDigit] at digit

theorem readScalar_of_minus_digit
    {c : Char}
    (rest : List Char)
    (digit : Decimal.isDigit c = true) :
    readScalar ('-' :: c :: rest) = readNumber ('-' :: c :: rest) true (c :: rest) := by
  have noConstant :
      constants.find? (fun constant => constant.1.isPrefixOf ('-' :: c :: rest)) = none :=
    findConstant_eq_none (by simp [digit])
  rw [readScalar, noConstant]

/-- A written whole number reads back. -/
theorem readScalar_ofInt
    {value : Int}
    {rest : List Char}
    (short : Decimal.digitCount value ≤ Numeral.maxDigits)
    (ended : EndsValue rest) :
    readScalar (Decimal.ofInt value ++ rest) = .ok (.int value, rest) := by
  cases value with
  | ofNat n =>
      obtain ⟨c, more, shape, digit⟩ := Decimal.exists_digits n
      rw [Decimal.ofInt, shape, List.cons_append, readScalar_of_digit _ digit,
        ← List.cons_append, ← shape, readNumber_digits (n := n) _ _ short ended]
      rfl
  | negSucc n =>
      obtain ⟨c, more, shape, digit⟩ := Decimal.exists_digits (n + 1)
      rw [Decimal.ofInt, shape, List.cons_append, List.cons_append,
        readScalar_of_minus_digit _ digit, ← List.cons_append, ← shape,
        readNumber_digits (n := n + 1) _ _ short ended]
      rfl

end CodeDeck.Json
