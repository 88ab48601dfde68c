import GuardedScript.Text.CodeTable

/-!
# Blank characters and words

The blank characters are those with the Unicode property `White_Space`.  A text is cut into words at
its blanks, and trimmed of the blanks around it.
-/

set_option autoImplicit false

namespace GuardedScript.Text

/-- The code points with the property `White_Space`. -/
def blanks : CodeTable where
  ranges :=
    [(0x9, 0xD), (0x20, 0x20), (0x85, 0x85), (0xA0, 0xA0), (0x1680, 0x1680), (0x2000, 0x200A),
      (0x2028, 0x2029), (0x202F, 0x202F), (0x205F, 0x205F), (0x3000, 0x3000)]

/-- Whether a character is blank. -/
def isBlank (c : Char) : Bool :=
  blanks.contains c

/-- The part of a text before its first blank, and the words after that part. -/
def cutWord : List Char → List Char × List (List Char)
  | [] => ([], [])
  | c :: rest =>
    let (word, words) := cutWord rest
    if isBlank c then
      ([], if word.isEmpty then words else word :: words)
    else
      (c :: word, words)

/-- The maximal pieces of a text without blanks, in order. -/
def words (text : List Char) : List (List Char) :=
  let (word, words) := cutWord text
  if word.isEmpty then words else word :: words

/-- A text without the blanks before its first and after its last word. -/
def trim (text : List Char) : List Char :=
  ((text.dropWhile isBlank).reverse.dropWhile isBlank).reverse

end GuardedScript.Text
