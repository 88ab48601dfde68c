import GuardedScript.Text.Blank
import GuardedScript.Text.DefaultIgnorable
import GuardedScript.Text.Graphic
import GuardedScript.Text.GraphemeExtend

/-!
# Quoted text

Names in diagnostics stand between double quotes.  The quote and the backslash are escaped, the
usual control characters have letters, and other characters that would not show as themselves are
written by their codes.
-/

set_option autoImplicit false

namespace GuardedScript.Text

/-- Whether a character is one of the two halfwidth sound marks.  They belong to the letter before
them, but have a cell of their own. -/
def isHalfwidthSoundMark (c : Char) : Bool :=
  c.toNat == 0xFF9E || c.toNat == 0xFF9F

/-- Whether a character is written by its code: it has no visible form, is a blank other than the
plain space, or would merge with the character before it. -/
def isHidden (c : Char) : Bool :=
  !isGraphic c || (isBlank c && c != ' ') || isDefaultIgnorable c ||
    (isGraphemeExtend c && !isHalfwidthSoundMark c)

/-- The characters that stand for one character between quotes. -/
def quoteChar (c : Char) : List Char :=
  if c == '"' || c == '\\' then ['\\', c]
  else if c == '\n' then ['\\', 'n']
  else if c == '\r' then ['\\', 'r']
  else if c == '\t' then ['\\', 't']
  else if c.toNat == 0 then ['\\', '0']
  else if isHidden c then
    ['\\', 'u', Char.ofNat 0x7B] ++ Nat.toDigits 16 c.toNat ++ [Char.ofNat 0x7D]
  else [c]

/-- A text between quotes. -/
def quoted (text : String) : String :=
  String.ofList (['"'] ++ text.toList.flatMap quoteChar ++ ['"'])

end GuardedScript.Text
