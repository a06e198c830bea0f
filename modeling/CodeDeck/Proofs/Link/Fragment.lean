import CodeDeck.Link.Payload
import CodeDeck.Proofs.Json.ReadBack

namespace CodeDeck.Link

/-!
# What a fragment carries

A fragment is written in a small alphabet, so an address can be cut at its
last `#`, and the three codings that a fragment is made with are undone one
after the other: percent coding, UTF-8, JSON.
-/

/-- The upper-case hexadecimal digits. -/
def isUpperHex (c : Char) : Bool :=
  ('0' ≤ c && c ≤ '9') || ('A' ≤ c && c ≤ 'F')

/-- The marks that stand for themselves in a fragment. -/
def marks : List Char :=
  ['-', '_', '.', '!', '~', '*', '\'', '(', ')']

/-- Texts of ASCII letters, digits, marks, and percent signs with two upper-case digits each. -/
inductive FragmentText : List Char → Prop where
  | nil :
      FragmentText []
  | plain
      {c : Char}
      {rest : List Char} :
      c.isAlphanum = true ∨ c ∈ marks →
      FragmentText rest →
      FragmentText (c :: rest)
  | coded
      {high low : Char}
      {rest : List Char} :
      isUpperHex high = true →
      isUpperHex low = true →
      FragmentText rest →
      FragmentText ('%' :: high :: low :: rest)

/-- The value that a fragment carries. -/
def decode (fragment : String) : Option Json := do
  let bytes ← Text.Percent.decode fragment.toList
  let chars ← (Text.Utf8.decode bytes).toOption
  (Json.read chars).toOption

/-- The parts of a text before and behind the last occurrence of a character. -/
def cutAtLast? (separator : Char) : List Char → Option (List Char × List Char)
  | [] => none
  | c :: rest =>
      match cutAtLast? separator rest with
      | some (before, behind) => some (c :: before, behind)
      | none => if c = separator then some ([], rest) else none

/-- The base of an address and its fragment: what stands before and behind its last `#`. -/
def splitAddress? (address : String) : Option (String × String) :=
  (cutAtLast? '#' address.toList).map fun parts =>
    (String.ofList parts.1, String.ofList parts.2)

theorem isUpperHex_hexDigit : ∀ n < 16, isUpperHex (Text.Percent.hexDigit n) = true := by
  decide

namespace FragmentText

theorem append
    {first second : List Char}
    (firstText : FragmentText first)
    (secondText : FragmentText second) :
    FragmentText (first ++ second) := by
  induction firstText with
  | nil => exact secondText
  | plain allowed _ inductionHypothesis => exact .plain allowed inductionHypothesis
  | coded high low _ inductionHypothesis => exact .coded high low inductionHypothesis

theorem encodeByte (byte : UInt8) : FragmentText (Text.Percent.encodeByte byte) := by
  have bound : byte.toNat < 256 := byte.toNat_lt
  unfold Text.Percent.encodeByte
  simp only
  split
  · rename_i unreserved
    refine .plain ?_ .nil
    simpa [Text.Percent.isUnreserved, marks, or_assoc] using unreserved.2
  · exact .coded (isUpperHex_hexDigit _ (by omega)) (isUpperHex_hexDigit _ (by omega)) .nil

theorem ofBytes (bytes : List UInt8) : FragmentText (Text.Percent.encode bytes) := by
  induction bytes with
  | nil => exact .nil
  | cons byte bytes inductionHypothesis =>
      rw [Text.Percent.encode, List.flatMap_cons]
      exact (encodeByte byte).append inductionHypothesis

/-- No fragment has a `#`, so the last one of an address is the one before its fragment. -/
theorem hash_not_mem
    {chars : List Char}
    (text : FragmentText chars) :
    '#' ∉ chars := by
  induction text with
  | nil => simp
  | plain allowed _ inductionHypothesis =>
      intro member
      rcases List.mem_cons.mp member with rfl | inRest
      · revert allowed
        decide
      · exact inductionHypothesis inRest
  | coded high low _ inductionHypothesis =>
      intro member
      simp only [List.mem_cons] at member
      rcases member with percent | rfl | rfl | inRest
      · revert percent
        decide
      · revert high
        decide
      · revert low
        decide
      · exact inductionHypothesis inRest

end FragmentText

theorem fragmentText_encode (payload : Json) : FragmentText (encode payload).toList := by
  simp only [encode, String.toList_ofList]
  exact FragmentText.ofBytes _

theorem cutAtLast?_of_not_mem
    {separator : Char}
    {chars : List Char}
    (absent : separator ∉ chars) :
    cutAtLast? separator chars = none := by
  induction chars with
  | nil => rfl
  | cons c rest inductionHypothesis =>
      simp only [List.mem_cons, not_or] at absent
      rw [cutAtLast?, inductionHypothesis absent.2]
      simp [Ne.symm absent.1]

/-- A separator with none behind it is the last one, whatever stands before it. -/
theorem cutAtLast?_append
    {separator : Char}
    {behind : List Char}
    (before : List Char)
    (absent : separator ∉ behind) :
    cutAtLast? separator (before ++ separator :: behind) = some (before, behind) := by
  induction before with
  | nil =>
      rw [List.nil_append, cutAtLast?, cutAtLast?_of_not_mem absent]
      simp
  | cons c before inductionHypothesis =>
      rw [List.cons_append, cutAtLast?, inductionHypothesis]

/-- An address is cut at its last `#` into its base and its fragment. -/
theorem splitAddress?_address
    (config : Config)
    (payload : Json) :
    splitAddress? (address config (encode payload)) =
      some (config.baseUrl, encode payload) := by
  have absent := (fragmentText_encode payload).hash_not_mem
  have shape : (address config (encode payload)).toList =
      config.baseUrl.toList ++ '#' :: (encode payload).toList := by
    simp [address]
  rw [splitAddress?, shape, cutAtLast?_append _ absent]
  simp

/-- A fragment carries the value that it is made of. -/
theorem decode_encode
    {payload : Json}
    (plain : payload.isPlain = true) :
    decode (encode payload) = some payload := by
  simp [decode, encode, Text.Percent.decode_encode, Text.Utf8.decode_encode,
    Json.read_write plain, Except.toOption]

/--
Nothing is lost in a link: its fragment carries exactly the value that it is made of, so no
other value has the same fragment; it is written in the alphabet of fragments; and any
address with it, whatever its base, is cut at the last `#` into that base and the fragment.
-/
theorem encode_lossless
    (payload : Json)
    (plain : payload.isPlain = true) :
    decode (encode payload) = some payload ∧
      (∀ other : Json,
        other.isPlain = true → encode other = encode payload → other = payload) ∧
      FragmentText (encode payload).toList ∧
      (∀ config : Config,
        splitAddress? (address config (encode payload)) =
          some (config.baseUrl, encode payload)) := by
  refine ⟨decode_encode plain, ?_, fragmentText_encode payload,
    fun config => splitAddress?_address config payload⟩
  intro other otherPlain same
  have carried := decode_encode otherPlain
  rw [same, decode_encode plain] at carried
  exact (Option.some.inj carried).symm

/-- Keys, escapes, astral characters and empty containers under a base that has its own `#`. -/
theorem encode_lossless_nested :
    let payload : Json := .object [
      ("\"é", .array [.null, .bool true, .int (-12), .object []]),
      ("#%\n", .string "😀\\\u0001"),
      ("", .array [.array [], .string ""])]
    let config := { Config.default with baseUrl := "https://a.test/#b" }
    payload.isPlain = true ∧
      decode (encode payload) = some payload ∧
      FragmentText (encode payload).toList ∧
      splitAddress? (address config (encode payload)) =
        some ("https://a.test/#b", encode payload) := by
  intro payload config
  have plain : payload.isPlain = true := by decide
  obtain ⟨carried, _, alphabet, cut⟩ := encode_lossless payload plain
  exact ⟨plain, carried, alphabet, cut config⟩

end CodeDeck.Link
