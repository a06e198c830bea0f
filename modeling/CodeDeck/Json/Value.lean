import CodeDeck.Number.Binary64

namespace CodeDeck

/-!
# JSON values

Values of settings files and link payloads. Whole numbers and double-precision
numbers are told apart, and an object keeps its entries in order. The
functions on entries keep the keys of an object distinct: storing under a key
that is there replaces the value and leaves the key in its place.
-/

/-- A JSON value. -/
inductive Json where
  | null
  | bool (value : Bool)
  | int (value : Int)
  | float (value : Binary64)
  | string (value : String)
  | array (items : List Json)
  | object (entries : List (String × Json))
  deriving Repr, Inhabited, BEq

namespace Json

/-- The entries of an object, in order. -/
abbrev Entries := List (String × Json)

/-- What a value is, without its contents. -/
inductive Kind where
  | null
  | bool
  | int
  | float
  | string
  | array
  | object
  deriving Repr, DecidableEq

/-- The kind of a value. -/
def kind : Json → Kind
  | .null => .null
  | .bool _ => .bool
  | .int _ => .int
  | .float _ => .float
  | .string _ => .string
  | .array _ => .array
  | .object _ => .object

/-- The name by which messages call a kind. -/
def Kind.name : Kind → String
  | .null => "NoneType"
  | .bool => "bool"
  | .int => "int"
  | .float => "float"
  | .string => "str"
  | .array => "list"
  | .object => "dict"

/-- Whether a value counts as given: null, false, zero and everything empty do not. -/
def isGiven : Json → Bool
  | .null => false
  | .bool value => value
  | .int value => value != 0
  | .float value => !value.isZero
  | .string value => value != ""
  | .array items => !items.isEmpty
  | .object entries => !entries.isEmpty

/-- The value when it counts as given, otherwise another one. -/
def orElse (value other : Json) : Json :=
  if value.isGiven then value else other

end Json

namespace Json.Entries

/-- The value stored under a key. -/
def get? (entries : Json.Entries) (key : String) : Option Json :=
  (entries.find? fun entry => entry.1 == key).map Prod.snd

/-- Store a value under a key: in place of the old value, or at the end. -/
def put : Json.Entries → String → Json → Json.Entries
  | [], key, value => [(key, value)]
  | (name, old) :: rest, key, value =>
      if name = key then
        (name, value) :: rest
      else
        (name, old) :: put rest key value

/-- Entries from pairs in the order in which they are stored. -/
def ofPairs (pairs : List (String × Json)) : Json.Entries :=
  pairs.foldl (fun entries pair => put entries pair.1 pair.2) []

end Json.Entries

end CodeDeck
