import CodeDeck.Json.Writer

namespace CodeDeck.Json

/-!
# Values as mappings

An object is a mapping, and so is a sequence of pairs: an array of arrays of
two, of texts of two characters, or of objects of two keys. A key may be any
value that is no container; numbers and truth values that are equal are one
key. A key that is no text is kept as its JSON text.
-/

/-- Why a value is no mapping. -/
inductive NotMapping where
  | noSequence (kind : Kind)
  | noPair (index : Nat)
  | wrongSize (index size : Nat)
  | unusableKey (kind : Kind)
  deriving Repr, DecidableEq

/-- The message about a value that is no mapping. -/
def NotMapping.message : NotMapping → String
  | .noSequence kind => "'" ++ kind.name ++ "' object is not iterable"
  | .noPair index =>
      "cannot convert dictionary update sequence element #" ++ toString index ++ " to a sequence"
  | .wrongSize index size =>
      "dictionary update sequence element #" ++ toString index ++ " has length " ++
        toString size ++ "; 2 is required"
  | .unusableKey kind => "unhashable type: '" ++ kind.name ++ "'"

/-- The items of a value that is a sequence: of an array, a text or an object. -/
def sequence? : Json → Option (List Json)
  | .array items => some items
  | .string text => some (text.toList.map fun c => .string (String.singleton c))
  | .object entries => some (entries.map fun entry => .string entry.1)
  | _ => none

/-- A number or truth value as a number. -/
def asNumber? : Json → Option (Int ⊕ Binary64)
  | .bool value => some (.inl (if value then 1 else 0))
  | .int value => some (.inl value)
  | .float value =>
      match value.toInt? with
      | some whole => some (.inl whole)
      | none => some (.inr value)
  | _ => none

/-- Whether two values are the same key. -/
def isSameKey (first second : Json) : Bool :=
  match first, second with
  | .null, .null => true
  | .string first, .string second => first == second
  | first, second => (asNumber? first).isSome && asNumber? first == asNumber? second

/-- Store a value under a key of any kind: in place of the old value, or at the end. -/
def putAny : List (Json × Json) → Json → Json → List (Json × Json)
  | [], key, value => [(key, value)]
  | (name, old) :: rest, key, value =>
      if isSameKey name key then
        (name, value) :: rest
      else
        (name, old) :: putAny rest key value

/-- A pair of a sequence, whose place in the sequence is given, as a key and a value. -/
def pairOf (index : Nat) (item : Json) : Except NotMapping (Json × Json) :=
  match item.sequence? with
  | none => .error (.noPair index)
  | some [.array _, _] => .error (.unusableKey .array)
  | some [.object _, _] => .error (.unusableKey .object)
  | some [key, value] => .ok (key, value)
  | some items => .error (.wrongSize index items.length)

/-- Pairs stored one after the other, the first of them standing at a place in the sequence. -/
def putPairs
    (stored : List (Json × Json))
    (index : Nat) : List Json → Except NotMapping (List (Json × Json))
  | [] => .ok stored
  | item :: items => do
      let (key, value) ← pairOf index item
      putPairs (putAny stored key value) (index + 1) items

/-- A key as a text. -/
def keyText : Json → String
  | .string text => text
  | key => key.compact

/-- The entries of a value that is a mapping. -/
def toEntries : Json → Except NotMapping Entries
  | .object entries => .ok entries
  | value =>
      match value.sequence? with
      | none => .error (.noSequence value.kind)
      | some items => do
          let stored ← putPairs [] 0 items
          return stored.map fun entry => (keyText entry.1, entry.2)

end CodeDeck.Json
