import GuardedScript.Text.Blank

/-!
# Registry keys

Functions are registered and looked up under the key of a name: the words of the name, joined by
underscores.  All spellings of a name that differ in blanks only have the same key.
-/

set_option autoImplicit false

namespace GuardedScript.Text

/-- The words of a name joined by single underscores. -/
def keyChars (name : List Char) : List Char :=
  List.intercalate ['_'] (words name)

/-- The key under which the functions of a name are found. -/
def key (name : String) : String :=
  String.ofList (keyChars name.toList)

end GuardedScript.Text
