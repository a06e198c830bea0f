import CodeDeck.Text.Utf8

namespace CodeDeck.Link.Qr

/-!
# QR codes of links

How large the QR code of an address is, if one can hold it. The bytes of an
address are cut into segments of digits, of the 45 characters of the
alphanumeric mode, and of other bytes; the size is the smallest version that
holds them all at the middle level of error correction.
-/

/-- How the bytes of a segment are coded. -/
inductive Mode where
  | numeric
  | alphanumeric
  | byte
  deriving Repr, DecidableEq

/-- A run of bytes in one mode. -/
structure Segment where
  mode : Mode
  length : Nat
  deriving Repr, DecidableEq

/-- A digit. -/
def isDigit (byte : UInt8) : Bool :=
  48 ≤ byte.toNat && byte.toNat ≤ 57

/-- A byte that the alphanumeric mode can code. -/
def isAlphanumeric (byte : UInt8) : Bool :=
  isDigit byte || (65 ≤ byte.toNat && byte.toNat ≤ 90) ||
    [32, 36, 37, 42, 43, 45, 46, 47, 58].contains byte.toNat

/-- A run is worth a segment of its own from this length on. -/
def minimumRun : Nat := 20

/-- A piece of data, and whether it is of the kind that was looked for. -/
abbrev Piece := Bool × List UInt8

/--
Bytes cut at the runs of a kind that are long enough; `other` are the bytes since the
last one, in reverse order.
-/
def runsFrom (kind : UInt8 → Bool) : Nat → List UInt8 → List UInt8 → List Piece
  | 0, other, bytes => [(false, other.reverse ++ bytes)]
  | fuel + 1, other, bytes =>
      let emit (pieces : List Piece) : List Piece :=
        if other.isEmpty then pieces else (false, other.reverse) :: pieces
      match bytes with
      | [] => emit []
      | byte :: rest =>
          let run := bytes.takeWhile kind
          if run.length < minimumRun then
            if run.isEmpty then
              runsFrom kind fuel (byte :: other) rest
            else
              runsFrom kind fuel (run.reverse ++ other) (bytes.dropWhile kind)
          else
            emit ((true, run) :: runsFrom kind fuel [] (bytes.dropWhile kind))

/-- Few bytes cut as a whole: all of a kind, up to a newline at their end, or not at all. -/
def wholeRun (kind : UInt8 → Bool) (bytes : List UInt8) : List Piece :=
  let run := bytes.takeWhile kind
  let rest := bytes.dropWhile kind
  if run.isEmpty then
    if bytes.isEmpty then [] else [(false, bytes)]
  else if rest.isEmpty then
    [(true, run)]
  else if rest = [10] then
    [(true, run), (false, rest)]
  else
    [(false, bytes)]

/-- Bytes cut at the runs of a kind, where `few` says that all bytes together are few. -/
def cut (few : Bool) (kind : UInt8 → Bool) (bytes : List UInt8) : List Piece :=
  if few then wholeRun kind bytes else runsFrom kind (bytes.length + 1) [] bytes

/-- The segments of data. -/
def segments (bytes : List UInt8) : List Segment :=
  let few := bytes.length ≤ minimumRun
  (cut few isDigit bytes).flatMap fun piece =>
    if piece.1 then
      [⟨.numeric, piece.2.length⟩]
    else
      (cut few isAlphanumeric piece.2).map fun piece =>
        ⟨if piece.1 then .alphanumeric else .byte, piece.2.length⟩

/-- The bits in which the length of a segment is counted, by version. -/
def countBits (version : Nat) (mode : Mode) : Nat :=
  match mode with
  | .numeric => if version < 10 then 10 else if version < 27 then 12 else 14
  | .alphanumeric => if version < 10 then 9 else if version < 27 then 11 else 13
  | .byte => if version < 10 then 8 else 16

/-- The bits of the data of a segment. -/
def dataBits (segment : Segment) : Nat :=
  let length := segment.length
  match segment.mode with
  | .numeric => length / 3 * 10 + (if length % 3 = 0 then 0 else length % 3 * 3 + 1)
  | .alphanumeric => length / 2 * 11 + length % 2 * 6
  | .byte => length * 8

/-- The bits that segments take in a version. -/
def bits (version : Nat) (segments : List Segment) : Nat :=
  segments.foldl
    (fun total segment => total + (4 + countBits version segment.mode + dataBits segment)) 0

/-- The bits that versions one to forty hold. -/
def capacities : List Nat :=
  [128, 224, 352, 512, 688, 864, 992, 1232, 1456, 1728, 2032, 2320, 2672, 2920, 3320, 3624, 4056,
    4504, 5016, 5352, 5712, 6256, 6880, 7312, 8000, 8496, 9024, 9544, 10136, 10984, 11640, 12328,
    13048, 13800, 14496, 15312, 15936, 16816, 17728, 18672]

/-- The first version from a given one on that holds segments. -/
def versionFrom? (segments : List Segment) (version : Nat) : List Nat → Option Nat
  | [] => none
  | capacity :: capacities =>
      if bits version segments ≤ capacity then
        some version
      else
        versionFrom? segments (version + 1) capacities

/-- The smallest version that holds some bytes. -/
def holding? (bytes : List UInt8) : Option Nat :=
  versionFrom? (segments bytes) 1 capacities

/-- The smallest version that holds the code of an address. -/
def version? (address : String) : Option Nat :=
  holding? (Text.Utf8.encode address.toList)

/-- The size of a drawing in which one row of characters shows two rows of modules. -/
structure Size where
  rows : Nat
  columns : Nat
  deriving Repr, DecidableEq

/-- The size of the drawing of a version, with a border of one module. -/
def Size.ofVersion (version : Nat) : Size :=
  let modules := 17 + 4 * version + 2
  ⟨(modules + 1) / 2, modules⟩

/-- The size of the drawing of an address, if some version holds it. -/
def size? (address : String) : Option Size :=
  (version? address).map Size.ofVersion

end CodeDeck.Link.Qr
