import CodeDeck.Json.Display
import CodeDeck.Number.Numeral

namespace CodeDeck.Json

/-!
# Values as whole numbers

Numbers, truth values and numerals can stand for a whole number. A number
loses what lies behind its point.
-/

/-- Why a value stands for no whole number. -/
inductive NotWhole where
  | noNumber (kind : Kind)
  | numeral (text : String)
  | longNumeral (digits : Nat)
  | infinite
  | notANumber
  deriving Repr, DecidableEq

/-- How many characters of a refused text a message shows. -/
def shownSize : Nat := 200

/-- The message about a value that stands for no whole number. -/
def NotWhole.message : NotWhole → String
  | .noNumber kind =>
      "int() argument must be a string, a bytes-like object or a real number, not '" ++
        kind.name ++ "'"
  | .numeral text =>
      "invalid literal for int() with base 10: " ++
        String.ofList ((Text.Quoted.encode text.toList).take shownSize)
  | .longNumeral digits => Numeral.tooLongMessage digits
  | .infinite => "cannot convert float infinity to integer"
  | .notANumber => "cannot convert float NaN to integer"

/-- The whole number that a value stands for. -/
def toWhole : Json → Except NotWhole Int
  | .int value => .ok value
  | .bool value => .ok (if value then 1 else 0)
  | .float .nan => .error .notANumber
  | .float (.infinite _) => .error .infinite
  | .float value => .ok (value.truncate?.getD 0)
  | .string text =>
      match Numeral.read text.toList with
      | .ok value => .ok value
      | .error .malformed => .error (.numeral text)
      | .error (.tooLong digits) => .error (.longNumeral digits)
  | value => .error (.noNumber value.kind)

end CodeDeck.Json
