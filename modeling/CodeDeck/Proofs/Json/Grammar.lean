import CodeDeck.Json.Writer
import CodeDeck.Proofs.Json.ScalarReadBack
import CodeDeck.Proofs.Number.Shortest

namespace CodeDeck.Json

/-!
# The grammar of JSON

What a JSON text is, apart from any reader: blanks, numbers, strings, and by
one rule for each form the values made of them. There is no rule for a number
that is not finite. The numbers and strings that are written follow the rules.
-/

/-- Blanks: spaces, tabs and line ends. -/
def AreBlanks (text : List Char) : Prop :=
  ∀ c ∈ text, c ∈ [' ', '\t', '\n', '\r']

/-- Decimal digits, at least one. -/
def AreDigits (text : List Char) : Prop :=
  text ≠ [] ∧ ∀ c ∈ text, Decimal.isDigit c = true

/-- The digits before the point of a number: a zero stands alone. -/
def AreWhole (text : List Char) : Prop :=
  AreDigits text ∧ ∀ rest, text = '0' :: rest → rest = []

/-- Nothing, or a point and the digits behind it. -/
def IsFraction (text : List Char) : Prop :=
  text = [] ∨ ∃ digits, AreDigits digits ∧ text = '.' :: digits

/-- Nothing, or the exponent of a power of ten. -/
def IsExponent (text : List Char) : Prop :=
  text = [] ∨
    ∃ mark sign digits,
      mark ∈ ['e', 'E'] ∧ sign ∈ [[], ['+'], ['-']] ∧ AreDigits digits ∧
        text = mark :: sign ++ digits

/-- A number. -/
inductive IsNumber : List Char → Prop where
  | intro
      {sign whole fraction exponent : List Char} :
      sign ∈ [[], ['-']] →
      AreWhole whole →
      IsFraction fraction →
      IsExponent exponent →
      IsNumber (sign ++ (whole ++ (fraction ++ exponent)))

/-- The characters of a string between its quotes. -/
inductive AreStringChars : List Char → Prop where
  | nil :
      AreStringChars []
  | plain
      {c : Char}
      {rest : List Char} :
      32 ≤ c.toNat →
      c ≠ '"' →
      c ≠ '\\' →
      AreStringChars rest →
      AreStringChars (c :: rest)
  | escape
      {c : Char}
      {rest : List Char} :
      c ∈ ['"', '\\', '/', 'b', 'f', 'n', 'r', 't'] →
      AreStringChars rest →
      AreStringChars ('\\' :: c :: rest)
  | code
      {digits rest : List Char} :
      digits.length = 4 →
      (∀ c ∈ digits, Digits.isHex c = true) →
      AreStringChars rest →
      AreStringChars ('\\' :: 'u' :: (digits ++ rest))

/-- A string with its quotes. -/
def IsString (text : List Char) : Prop :=
  ∃ chars, AreStringChars chars ∧ text = '"' :: (chars ++ ['"'])

/-- What the rules of the grammar are about. -/
inductive Symbol where
  | value
  /-- A value with blanks around it. -/
  | element
  /-- The items of an array, at least one. -/
  | items
  /-- The entries of an object, at least one. -/
  | entries
  deriving DecidableEq

/-- The texts that the grammar derives from a symbol. -/
inductive Derives : Symbol → List Char → Prop where
  | nullWord :
      Derives .value ['n', 'u', 'l', 'l']
  | trueWord :
      Derives .value ['t', 'r', 'u', 'e']
  | falseWord :
      Derives .value ['f', 'a', 'l', 's', 'e']
  | number
      {text : List Char} :
      IsNumber text →
      Derives .value text
  | string
      {text : List Char} :
      IsString text →
      Derives .value text
  | emptyArray
      {blanks : List Char} :
      AreBlanks blanks →
      Derives .value ('[' :: (blanks ++ [']']))
  | array
      {items : List Char} :
      Derives .items items →
      Derives .value ('[' :: (items ++ [']']))
  | emptyObject
      {blanks : List Char} :
      AreBlanks blanks →
      Derives .value ('\x7b' :: (blanks ++ ['\x7d']))
  | object
      {entries : List Char} :
      Derives .entries entries →
      Derives .value ('\x7b' :: (entries ++ ['\x7d']))
  | element
      {before value behind : List Char} :
      AreBlanks before →
      Derives .value value →
      AreBlanks behind →
      Derives .element (before ++ (value ++ behind))
  | item
      {element : List Char} :
      Derives .element element →
      Derives .items element
  | moreItems
      {element items : List Char} :
      Derives .element element →
      Derives .items items →
      Derives .items (element ++ ',' :: items)
  | entry
      {before key behind element : List Char} :
      AreBlanks before →
      IsString key →
      AreBlanks behind →
      Derives .element element →
      Derives .entries (before ++ (key ++ (behind ++ ':' :: element)))
  | moreEntries
      {before key behind element entries : List Char} :
      AreBlanks before →
      IsString key →
      AreBlanks behind →
      Derives .element element →
      Derives .entries entries →
      Derives .entries (before ++ (key ++ (behind ++ ':' :: (element ++ ',' :: entries))))

/-- A JSON text: a value with blanks around it. -/
def IsJsonText (text : List Char) : Prop :=
  Derives .element text

/-! ## Numbers -/

theorem areDigits_digits (n : Nat) : AreDigits (Decimal.digits n) :=
  ⟨Decimal.digits_ne_nil n, fun _ => Decimal.isDigit_of_mem_digits⟩

theorem areWhole_digits (n : Nat) : AreWhole (Decimal.digits n) := by
  refine ⟨areDigits_digits n, fun rest shape => ?_⟩
  obtain rfl := Decimal.eq_zero_of_digits_zero shape
  exact (List.cons.inj shape).2.symm

/-- Digits behind others are digits. -/
theorem AreDigits.behind
    {first second : List Char}
    (digits : AreDigits second)
    (others : ∀ c ∈ first, Decimal.isDigit c = true) :
    AreDigits (first ++ second) :=
  ⟨List.append_ne_nil_of_right_ne_nil first digits.1,
    List.forall_mem_append.mpr ⟨others, digits.2⟩⟩

theorem isDigit_of_mem_zeros
    {count : Nat}
    {c : Char}
    (member : c ∈ List.replicate count '0') :
    Decimal.isDigit c = true := by
  rw [List.eq_of_mem_replicate member]
  rfl

theorem isDigit_of_mem_padded
    {n zeros : Nat}
    {c : Char}
    (member : c ∈ Decimal.digits n ++ List.replicate zeros '0') :
    Decimal.isDigit c = true := by
  rcases List.mem_append.mp member with inDigits | inZeros
  · exact Decimal.isDigit_of_mem_digits inDigits
  · exact isDigit_of_mem_zeros inZeros

theorem isNumber_ofInt (value : Int) : IsNumber (Decimal.ofInt value) := by
  have unsigned (sign : List Char) (signed : sign ∈ [[], ['-']]) (n : Nat) :
      IsNumber (sign ++ Decimal.digits n) := by
    have number : IsNumber (sign ++ (Decimal.digits n ++ ([] ++ []))) :=
      .intro signed (areWhole_digits n) (.inl rfl) (.inl rfl)
    simpa using number
  cases value with
  | ofNat n => exact unsigned [] (by simp) n
  | negSucc n => exact unsigned ['-'] (by simp) (n + 1)

theorem isExponent_exponentText (exponent : Int) : IsExponent (Binary64.exponentText exponent) := by
  refine .inr ⟨'e', if exponent < 0 then ['-'] else ['+'],
    if (Decimal.digits exponent.natAbs).length < 2 then '0' :: Decimal.digits exponent.natAbs
    else Decimal.digits exponent.natAbs, by simp, ?_, ?_, ?_⟩
  · split
    all_goals simp
  · have digits := areDigits_digits exponent.natAbs
    split
    · exact digits.behind (List.forall_mem_singleton.mpr rfl)
    · exact digits
  · rw [Binary64.exponentText]
    split
    all_goals rfl

/-- Digits before the point, with zeros in place of those that are missing. -/
theorem areWhole_take
    {coefficient count zeros : Nat}
    (positive : 0 < count)
    (short : coefficient = 0 → count = 1) :
    AreWhole ((Decimal.digits coefficient ++ List.replicate zeros '0').take count) := by
  obtain ⟨first, rest, shape, -⟩ := Decimal.exists_digits coefficient
  obtain ⟨less, rfl⟩ := Nat.exists_eq_add_one.mpr positive
  refine ⟨⟨by simp [shape], fun c member => isDigit_of_mem_padded (List.mem_of_mem_take member)⟩,
    fun others same => ?_⟩
  -- A zero in front is all of the digits, and then one place is asked for.
  rw [shape, List.cons_append, List.take_succ_cons] at same
  injection same with isZero sameRest
  have one := short (Decimal.eq_zero_of_digits_zero (isZero ▸ shape))
  obtain rfl : less = 0 := by omega
  exact sameRest.symm

theorem areWhole_singleton
    {c : Char}
    (isDigit : Decimal.isDigit c = true) :
    AreWhole [c] :=
  ⟨⟨List.cons_ne_nil _ _, List.forall_mem_singleton.mpr isDigit⟩,
    fun _ shape => (List.cons.inj shape).2.symm⟩

/-- The digits behind the point, where a zero stands for none. -/
theorem areDigits_places
    {places : List Char}
    (digits : ∀ c ∈ places, Decimal.isDigit c = true) :
    AreDigits (if places.isEmpty then ['0'] else places) := by
  split
  · exact areDigits_digits 0
  · rename_i some
    exact ⟨fun none => some (List.isEmpty_iff.mpr none), digits⟩

theorem isNumber_positional
    {sign whole digits : List Char}
    (signed : sign ∈ [[], ['-']])
    (isWhole : AreWhole whole)
    (fraction : AreDigits digits) :
    IsNumber (sign ++ (whole ++ '.' :: digits)) := by
  have number := IsNumber.intro signed isWhole (.inr ⟨digits, fraction, rfl⟩) (.inl rfl)
  rwa [List.append_nil] at number

/-- The numeral of a decimal is a number; one that is zero must not stand on a coarse grid. -/
theorem isNumber_numeral
    {coefficient : Nat}
    {exponent : Int}
    {sign : List Char}
    (signed : sign ∈ [[], ['-']])
    (fine : coefficient = 0 → exponent ≤ 0) :
    IsNumber (sign ++ Binary64.numeral numberStyle coefficient exponent) := by
  have isDigit : ∀ c ∈ Decimal.digits coefficient, Decimal.isDigit c = true :=
    fun _ => Decimal.isDigit_of_mem_digits
  rw [Binary64.numeral]
  split
  · rename_i positional
    split
    · have fraction (zeros : Nat) :
          AreDigits (List.replicate zeros '0' ++ Decimal.digits coefficient) :=
        (areDigits_digits coefficient).behind fun c => isDigit_of_mem_zeros
      exact isNumber_positional signed (areWhole_singleton rfl) (fraction _)
    · rename_i beforePoint
      have short (none : coefficient = 0) :
          (exponent + ((Decimal.digits coefficient).length : Int) - 1).toNat + 1 = 1 := by
        have one : (Decimal.digits coefficient).length = 1 := by
          rw [none]
          rfl
        have := fine none
        omega
      exact isNumber_positional signed (areWhole_take (Nat.succ_pos _) short)
        (areDigits_places fun c member => isDigit_of_mem_padded (List.mem_of_mem_drop member))
  · have exponents := isExponent_exponentText
      (exponent + ((Decimal.digits coefficient).length : Int) - 1)
    split
    · rename_i none
      exact absurd none (Decimal.digits_ne_nil coefficient)
    · rename_i first shape
      rw [shape] at isDigit
      exact .intro signed (areWhole_singleton (isDigit first (by simp))) (.inl rfl) exponents
    · rename_i first rest more shape
      rw [shape] at isDigit
      have fraction : AreDigits rest :=
        ⟨more, fun c member => isDigit c (List.mem_cons_of_mem first member)⟩
      exact .intro signed (areWhole_singleton (isDigit first (by simp)))
        (.inr ⟨rest, fraction, rfl⟩) exponents

/-- A finite double is written as a number. -/
theorem isNumber_toText
    (negative : Bool)
    (significand : Nat)
    (exponent : Int) :
    IsNumber ((Binary64.finite negative significand exponent).toText numberStyle) := by
  have magnitude (sign : List Char) (signed : sign ∈ [[], ['-']]) :
      IsNumber (sign ++
        if significand = 0 then
          ['0', '.', '0']
        else
          Binary64.numeral numberStyle (Shortest.decimal significand exponent).1
            (Shortest.decimal significand exponent).2) := by
    split
    · exact isNumber_positional signed (areWhole_singleton rfl) (areDigits_digits 0)
    · rename_i notZero
      exact isNumber_numeral signed (Shortest.decimal_eq_zero (Nat.pos_of_ne_zero notZero))
  rw [Binary64.toText]
  split
  · exact magnitude ['-'] (by simp)
  · exact magnitude [] (by simp)

/-! ## Strings -/

theorem isHex_hexDigit : ∀ n < 16, Digits.isHex (hexDigit n) = true := by
  decide

/-- A written character goes on with the characters of a string. -/
theorem areStringChars_writeChar
    (c : Char)
    {rest : List Char}
    (chars : AreStringChars rest) :
    AreStringChars (writeChar c ++ rest) := by
  unfold writeChar
  split
  · exact .escape (by simp) chars
  split
  · exact .escape (by simp) chars
  split
  · exact .escape (by simp) chars
  split
  · exact .escape (by simp) chars
  split
  · exact .escape (by simp) chars
  split
  · exact .escape (by simp) chars
  split
  · exact .escape (by simp) chars
  split
  · rename_i control
    have high := isHex_hexDigit (c.toNat / 16) (by omega)
    have low := isHex_hexDigit (c.toNat % 16) (by omega)
    have digits : ∀ d ∈ ['0', '0', hexDigit (c.toNat / 16), hexDigit (c.toNat % 16)],
        Digits.isHex d = true := by
      simp only [List.forall_mem_cons]
      exact ⟨rfl, rfl, high, low, by simp⟩
    exact .code rfl digits chars
  · exact .plain (by omega) ‹_› ‹_› chars

theorem areStringChars_flatMap (chars : List Char) :
    AreStringChars (chars.flatMap writeChar) := by
  induction chars with
  | nil => exact .nil
  | cons c chars inductionHypothesis =>
      rw [List.flatMap_cons]
      exact areStringChars_writeChar c inductionHypothesis

theorem isString_writeString (text : String) : IsString (writeString text) :=
  ⟨_, areStringChars_flatMap text.toList, rfl⟩

end CodeDeck.Json
