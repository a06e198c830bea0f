import CodeDeck.Json.Value
import CodeDeck.Number.Shortest
import CodeDeck.Text.Quoted

namespace CodeDeck.Json

/-!
# Values in messages

How a message shows a value: `None`, `True` and `False`, numbers as in JSON
text but with `nan` and `inf`, quoted strings, lists in brackets and mappings
in braces. A text on its own is shown without quotes.
-/

/-- How messages write numbers. -/
def messageStyle : NumeralStyle where
  firstPositional := -4
  positionalEnd := 16
  nanText := "nan"
  infinityText := "inf"

mutual

/-- A value as it stands inside a message, texts with their quotes. -/
def shown : Json → List Char
  | .null => "None".toList
  | .bool true => "True".toList
  | .bool false => "False".toList
  | .int value => Decimal.ofInt value
  | .float value => value.toText messageStyle
  | .string value => Text.Quoted.encode value.toList
  | .array [] => ['[', ']']
  | .array (item :: items) => '[' :: shown item ++ shownItems items
  | .object [] => ['\x7b', '\x7d']
  | .object ((key, value) :: entries) =>
      '\x7b' :: Text.Quoted.encode key.toList ++ ':' :: ' ' :: shown value ++ shownEntries entries

/-- The items after the first, and the end of the list. -/
def shownItems : List Json → List Char
  | [] => [']']
  | item :: items => ',' :: ' ' :: shown item ++ shownItems items

/-- The entries after the first, and the end of the mapping. -/
def shownEntries : List (String × Json) → List Char
  | [] => ['\x7d']
  | (key, value) :: entries =>
      ',' :: ' ' :: Text.Quoted.encode key.toList ++ ':' :: ' ' :: shown value ++
        shownEntries entries

end

/-- A value inside a message. -/
def quoted (value : Json) : String :=
  String.ofList value.shown

/-- A value as a message of its own: a text is shown as it is. -/
def display : Json → String
  | .string value => value
  | value => value.quoted

end CodeDeck.Json
