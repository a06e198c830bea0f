namespace CodeDeck.Text

/-!
# Whitespace

One set of whitespace characters serves every purpose of the library: blank
lines, margins, the spaces that a marker line may hold, and the class `\s` of
a pattern. A line is blank when all its characters are whitespace, and its
margin is the longest run of whitespace that it starts with.
-/

/--
The whitespace characters: the ASCII controls that move the cursor or separate fields,
and the Unicode spaces.
-/
def isSpace (c : Char) : Bool :=
  let code := c.toNat
  (9 ≤ code && code ≤ 13) || (28 ≤ code && code ≤ 32) || code == 0x85 || code == 0xA0 ||
    code == 0x1680 || (0x2000 ≤ code && code ≤ 0x200A) || code == 0x2028 || code == 0x2029 ||
    code == 0x202F || code == 0x205F || code == 0x3000

/-- A line is blank when it holds nothing but whitespace. -/
def isBlank (line : String) : Bool :=
  line.toList.all isSpace

/-- How many whitespace characters a line starts with. -/
def margin (line : String) : Nat :=
  (line.toList.takeWhile isSpace).length

/-- A line without its first `count` characters; a shorter line becomes empty. -/
def dropFront (count : Nat) (line : String) : String :=
  String.ofList (line.toList.drop count)

/-- Characters without the whitespace at both ends. -/
def stripSpaces (chars : List Char) : List Char :=
  ((chars.dropWhile isSpace).reverse.dropWhile isSpace).reverse

@[simp] theorem toList_dropFront (count : Nat) (line : String) :
    (dropFront count line).toList = line.toList.drop count := by
  simp [dropFront]

end CodeDeck.Text
