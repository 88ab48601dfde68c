import GuardedScript.Options
import GuardedScript.Outcome
import GuardedScript.Text.Blank
import GuardedScript.Value.Number
import GuardedScript.Value.Text

/-!
# Built-in conversions

A value of a type converts to that type unchanged.  Otherwise the scalars convert to one another
where that makes sense, arrays convert to strings, the sentinels convert to neutral values if the
options say so, and nothing else has a built-in conversion.
-/

set_option autoImplicit false

namespace GuardedScript.Value

/-- The character with a code, if the code is a Unicode scalar value. -/
def charOfCode? (code : Int) : Option Char :=
  if 0 ≤ code && code.toNat.isValidChar then some (Char.ofNat code.toNat) else none

/-- The 64-bit integer that a double is truncated to, if there is one. -/
def truncate? (d : Float) : Option Int64 :=
  ((Binary64.ofFloat d).truncate?).bind Decimal.int64?

/-- The neutral value of a type; as a string it is the sentinel's own text. -/
def neutral? (text target : String) : Option Value :=
  match target with
  | "String" => some (.string text)
  | "Int" | "Number" => some (.int 0)
  | "Double" => some (.double 0.0)
  | "Boolean" => some (.boolean false)
  | _ => none

/-- Conversions of an integer. -/
def intTo? (n : Int64) (target : String) : Option Value :=
  match target with
  | "Double" => some (.double (Float.ofInt n.toInt))
  | "String" => some (.string (Decimal.int64Text n))
  | "Boolean" => some (.boolean (n != 0))
  | "Char" => (charOfCode? n.toInt).map .char
  | _ => none

/-- Conversions of a double. -/
def doubleTo? (d : Float) (target : String) : Option Value :=
  match target with
  | "Int" => (truncate? d).map .int
  | "String" => some (.string (Decimal.doubleText d))
  | "Boolean" => some (.boolean (d != 0.0))
  | "Char" => (truncate? d).bind (fun n => intTo? n "Char")
  | _ => none

/-- Conversions of a character. -/
def charTo? (c : Char) (target : String) : Option Value :=
  match target with
  | "Int" | "Number" => some (.int (Int64.ofNat c.toNat))
  | "Double" => some (.double (Float.ofNat c.toNat))
  | "String" => some (.string (String.singleton c))
  | _ => none

/-- Conversions of a string: numbers and truth values are read without the blanks around them, a
character is the only one of the string. -/
def stringTo? (s : String) (target : String) : Option Value :=
  let trimmed := Text.trim s.toList
  match target with
  | "Int" => (Decimal.readInt64? trimmed).map .int
  | "Double" => (Decimal.readDouble? trimmed).map .double
  | "Number" =>
    match Decimal.readInt64? trimmed with
    | some n => some (.int n)
    | none => (Decimal.readDouble? trimmed).map .double
  | "Boolean" =>
    match String.ofList trimmed with
    | "true" => some (.boolean true)
    | "false" => some (.boolean false)
    | _ => none
  | "Char" =>
    match s.toList with
    | [c] => some (.char c)
    | _ => none
  | _ => none

/-- Conversions of a truth value. -/
def booleanTo? (b : Bool) (target : String) : Option Value :=
  match target with
  | "Int" | "Number" => some (.int (if b then 1 else 0))
  | "Double" => some (.double (if b then 1.0 else 0.0))
  | "String" => some (.string (if b then "true" else "false"))
  | _ => none

/-- The conversion of a value to a type that it is not of. -/
def convert? (options : Options) (target : String) : Value → Option Value
  | null => if options.nullCoercible then neutral? "null" target else none
  | undefined => if options.undefinedCoercible then neutral? "undefined" target else none
  | int n => intTo? n target
  | double d => doubleTo? d target
  | char c => charTo? c target
  | string s => stringTo? s target
  | boolean b => booleanTo? b target
  | array dynamic items =>
    if target == "String" then some (.string (array dynamic items).text) else none
  | reference _ | property _ _ | call _ _ | memberCall _ _ _ | expression _ _ => none

/-- The built-in conversion of a value to a type. -/
def coerce (value : Value) (options : Options) (target : ValueType) : Outcome Value :=
  if value.type.is target.name then
    .success value
  else
    .ofOption (value.convert? options target.name)

/-- Whether a value is a sentinel that the options do not let convert. -/
def isBlockedSentinel (options : Options) : Value → Bool
  | null => !options.nullCoercible
  | undefined => !options.undefinedCoercible
  | _ => false

/-! ### A conversion gives a value without parts -/

section Fixed

variable {value : Value} {text target : String}

/-- A value that stands for nothing does not need evaluation. -/
theorem needsEvaluation_neutral? (h : neutral? text target = some value) :
    value.needsEvaluation = false := by
  unfold neutral? at h
  split at h <;> cases h <;> rfl

/-- What an integer is converted to does not need evaluation. -/
theorem needsEvaluation_intTo? {n : Int64} (h : intTo? n target = some value) :
    value.needsEvaluation = false := by
  unfold intTo? at h
  split at h
  · cases h; rfl
  · cases h; rfl
  · cases h; rfl
  · obtain ⟨c, -, rfl⟩ := Option.map_eq_some_iff.mp h
    rfl
  · cases h

/-- What a floating-point number is converted to does not need evaluation. -/
theorem needsEvaluation_doubleTo? {d : Float} (h : doubleTo? d target = some value) :
    value.needsEvaluation = false := by
  unfold doubleTo? at h
  split at h
  · obtain ⟨n, -, rfl⟩ := Option.map_eq_some_iff.mp h
    rfl
  · cases h; rfl
  · cases h; rfl
  · obtain ⟨n, -, hn⟩ := Option.bind_eq_some_iff.mp h
    exact needsEvaluation_intTo? hn
  · cases h

/-- What a character is converted to does not need evaluation. -/
theorem needsEvaluation_charTo? {c : Char} (h : charTo? c target = some value) :
    value.needsEvaluation = false := by
  unfold charTo? at h
  split at h <;> cases h <;> rfl

/-- What a string is converted to does not need evaluation. -/
theorem needsEvaluation_stringTo? {s : String} (h : stringTo? s target = some value) :
    value.needsEvaluation = false := by
  simp only [stringTo?] at h
  split at h
  · obtain ⟨n, -, rfl⟩ := Option.map_eq_some_iff.mp h
    rfl
  · obtain ⟨d, -, rfl⟩ := Option.map_eq_some_iff.mp h
    rfl
  · split at h
    · cases h; rfl
    · obtain ⟨d, -, rfl⟩ := Option.map_eq_some_iff.mp h
      rfl
  · split at h <;> cases h <;> rfl
  · split at h <;> cases h
    rfl
  · cases h

/-- What a truth value is converted to does not need evaluation. -/
theorem needsEvaluation_booleanTo? {b : Bool} (h : booleanTo? b target = some value) :
    value.needsEvaluation = false := by
  unfold booleanTo? at h
  split at h <;> cases h <;> rfl

/-- What a value is converted to by the built-in rules does not need evaluation. -/
theorem needsEvaluation_convert? {options : Options} {source : Value}
    (h : source.convert? options target = some value) : value.needsEvaluation = false := by
  cases source with
  | null =>
    simp only [convert?] at h
    split at h
    · exact needsEvaluation_neutral? h
    · cases h
  | undefined =>
    simp only [convert?] at h
    split at h
    · exact needsEvaluation_neutral? h
    · cases h
  | int n => exact needsEvaluation_intTo? h
  | double d => exact needsEvaluation_doubleTo? h
  | char c => exact needsEvaluation_charTo? h
  | string s => exact needsEvaluation_stringTo? h
  | boolean b => exact needsEvaluation_booleanTo? h
  | array dynamic items =>
    simp only [convert?] at h
    split at h <;> cases h
    rfl
  | reference name => cases h
  | property receiver name => cases h
  | call name arguments => cases h
  | memberCall receiver name arguments => cases h
  | expression start operations => cases h

end Fixed

/-- A conversion gives the value itself or a value that needs no evaluation. -/
theorem eq_or_needsEvaluation_of_coerce {source value : Value} {options : Options}
    {target : ValueType} (h : source.coerce options target = .success value) :
    value = source ∨ value.needsEvaluation = false := by
  unfold coerce at h
  split at h
  · cases h
    exact .inl rfl
  · cases hconvert : source.convert? options target.name with
    | some converted =>
      rw [hconvert] at h
      cases h
      exact .inr (needsEvaluation_convert? hconvert)
    | none =>
      rw [hconvert] at h
      cases h

end GuardedScript.Value
