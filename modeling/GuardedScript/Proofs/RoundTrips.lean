import GuardedScript.Proofs.CheckedArithmetic
import GuardedScript.Value.Coercion
import Mathlib.Data.List.DropRight
import Mathlib.Data.Nat.Digits.Defs

/-!
# Conversions there and back

An integer, a character or a truth value that is written as a string, or as an integer, is read back
as what it was (`RoundTrips`).  Reading is described apart from the reader: `Stripped` says what is
left of a text without the blanks around it, and `Numeral` which texts denote which integers.  A
string converts to an integer exactly if what is left of it is a numeral for a 64-bit integer, and
then to that integer (`ReadsIntegers`).

The two meet in `intOfChars?_eq_some_iff`, which says that the reader of integers accepts the
numerals and no other texts, and in `numeral_intChars`, which says that integers are written as
numerals.
-/

set_option autoImplicit false

namespace GuardedScript

/-! ### Texts without the blanks around them -/

namespace Text

/-- What is left of a text without the blanks around it. -/
structure Stripped (text core : List Char) : Prop where
  around : ∃ before after, text = before ++ (core ++ after) ∧
    (∀ c ∈ before, isBlank c = true) ∧ ∀ c ∈ after, isBlank c = true
  first : ∀ c ∈ core.head?, isBlank c = false
  last : ∀ c ∈ core.getLast?, isBlank c = false

/-- A text that does not begin with a blank loses nothing in front. -/
theorem dropWhile_eq_self {text : List Char} (h : ∀ c ∈ text.head?, isBlank c = false) :
    text.dropWhile isBlank = text := by
  cases text with
  | nil => rfl
  | cons c text => exact List.dropWhile_cons_of_neg (by simpa using h)

/-- Trimming takes the blanks away and nothing else. -/
theorem stripped_trim (text : List Char) : Stripped text (trim text) := by
  have hhead := List.takeWhile_append_dropWhile (p := isBlank) (l := text)
  set inner := text.dropWhile isBlank with hinner
  have htail := List.takeWhile_append_dropWhile (p := isBlank) (l := inner.reverse)
  have hsplit : inner = trim text ++ (inner.reverse.takeWhile isBlank).reverse := by
    have hreverse := congrArg List.reverse htail
    rw [List.reverse_append, List.reverse_reverse] at hreverse
    exact hreverse.symm
  refine ⟨⟨text.takeWhile isBlank, (inner.reverse.takeWhile isBlank).reverse, ?_, ?_, ?_⟩, ?_, ?_⟩
  · rw [← hsplit, hhead]
  · intro c hc
    exact List.mem_takeWhile_imp hc
  · intro c hc
    exact List.mem_takeWhile_imp (List.mem_reverse.mp hc)
  · intro c hc
    -- the first character of what is left is the first one behind the blanks
    have hfirst : inner.head? = some c := by
      rw [hsplit, List.head?_append, Option.mem_def.mp hc]
      rfl
    simpa [← hinner, hfirst] using List.head?_dropWhile_not isBlank text
  · intro c hc
    have hlast : (inner.reverse.dropWhile isBlank).head? = some c := by
      rw [← List.getLast?_reverse]
      exact hc
    simpa [hlast] using List.head?_dropWhile_not isBlank inner.reverse

/-- Nothing else is left of a text than what trimming leaves. -/
theorem Stripped.eq_trim {text core : List Char} (h : Stripped text core) : core = trim text := by
  obtain ⟨⟨before, after, rfl, hbefore, hafter⟩, hfirst, hlast⟩ := h
  cases core with
  | nil =>
    have hblank : ∀ c ∈ before ++ ([] ++ after), isBlank c = true := by
      intro c hc
      rcases List.mem_append.mp hc with hc | hc
      · exact hbefore c hc
      · exact hafter c hc
    have hnothing : (before ++ ([] ++ after)).dropWhile isBlank = [] :=
      List.dropWhile_eq_nil_iff.mpr hblank
    rw [trim, hnothing]
    rfl
  | cons c core =>
    have hinner : (before ++ (c :: core ++ after)).dropWhile isBlank = c :: core ++ after := by
      rw [List.dropWhile_append_of_pos hbefore]
      exact dropWhile_eq_self (by simpa using hfirst)
    have hreverse : (c :: core ++ after).reverse.dropWhile isBlank = (c :: core).reverse := by
      rw [List.reverse_append,
        List.dropWhile_append_of_pos (fun c hc => hafter c (List.mem_reverse.mp hc))]
      refine dropWhile_eq_self (fun d hd => hlast d ?_)
      rwa [List.head?_reverse] at hd
    rw [trim, hinner, hreverse, List.reverse_reverse]

end Text

/-! ### Numerals -/

namespace Decimal

/-- What a decimal digit counts. -/
def digitValue (c : Char) : Nat :=
  c.toNat - '0'.toNat

/-- A row of ASCII digits denotes a number, the last digit counting ones. -/
structure Digits (text : List Char) (n : Nat) : Prop where
  present : text ≠ []
  ascii : ∀ c ∈ text, '0' ≤ c ∧ c ≤ '9'
  value : n = Nat.ofDigits 10 (text.reverse.map digitValue)

/-- A row of digits, perhaps behind a sign, denotes an integer. -/
inductive Numeral : List Char → Int → Prop
  | bare {text : List Char} {n : Nat} (digits : Digits text n) : Numeral text n
  | plus {text : List Char} {n : Nat} (digits : Digits text n) : Numeral ('+' :: text) n
  | minus {text : List Char} {n : Nat} (digits : Digits text n) : Numeral ('-' :: text) (-n)

/-- The number of a text is that of its digits, least significant first. -/
theorem ofDigitChars_eq_ofDigits (text : List Char) :
    Nat.ofDigitChars 10 text 0 = Nat.ofDigits 10 (text.reverse.map digitValue) := by
  induction text using List.reverseRecOn with
  | nil => rfl
  | append_singleton text c ih =>
    rw [Nat.ofDigitChars_append, Nat.ofDigitChars_cons, Nat.ofDigitChars_nil, ih,
      List.reverse_append, List.map_append]
    simp only [List.reverse_singleton, List.map_singleton, List.singleton_append,
      Nat.ofDigits_cons]
    exact Nat.add_comm _ _

/-- A text reads as a natural number if it consists of its digits. -/
theorem natOfDigits?_eq_some_iff {text : List Char} {n : Nat} :
    natOfDigits? text = some n ↔ Digits text n := by
  have haccepts : (!text.isEmpty && text.all isDigit) = true ↔
      text ≠ [] ∧ ∀ c ∈ text, '0' ≤ c ∧ c ≤ '9' := by
    simp [isDigit]
  unfold natOfDigits?
  split
  case isTrue htext =>
    obtain ⟨hpresent, hascii⟩ := haccepts.mp htext
    constructor
    · intro h
      cases h
      exact ⟨hpresent, hascii, ofDigitChars_eq_ofDigits text⟩
    · intro h
      rw [h.value, ofDigitChars_eq_ofDigits]
  case isFalse htext =>
    constructor
    · intro h
      cases h
    · intro h
      exact absurd (haccepts.mpr ⟨h.present, h.ascii⟩) htext

/-- A row of digits does not begin with another character. -/
theorem Digits.head_ne {c d : Char} {text : List Char} {n : Nat} (h : Digits (c :: text) n)
    (hd : isDigit d = false) : c ≠ d := by
  rintro rfl
  have hascii := h.ascii c List.mem_cons_self
  simp [isDigit, hascii] at hd

/-- The reader of integers accepts the numerals, and reads what they denote. -/
theorem intOfChars?_eq_some_iff {text : List Char} {n : Int} :
    intOfChars? text = some n ↔ Numeral text n := by
  unfold intOfChars?
  split
  case h_1 digits =>
    rw [Option.map_eq_some_iff]
    constructor
    · rintro ⟨m, hm, rfl⟩
      exact .plus (natOfDigits?_eq_some_iff.mp hm)
    · intro h
      cases h with
      | bare h => exact absurd rfl (h.head_ne (by decide))
      | plus h => exact ⟨_, natOfDigits?_eq_some_iff.mpr h, rfl⟩
  case h_2 digits =>
    rw [Option.map_eq_some_iff]
    constructor
    · rintro ⟨m, hm, rfl⟩
      exact .minus (natOfDigits?_eq_some_iff.mp hm)
    · intro h
      cases h with
      | bare h => exact absurd rfl (h.head_ne (by decide))
      | minus h => exact ⟨_, natOfDigits?_eq_some_iff.mpr h, rfl⟩
  case h_3 hplus hminus =>
    rw [Option.map_eq_some_iff]
    constructor
    · rintro ⟨m, hm, rfl⟩
      exact .bare (natOfDigits?_eq_some_iff.mp hm)
    · intro h
      cases h with
      | bare h => exact ⟨_, natOfDigits?_eq_some_iff.mpr h, rfl⟩
      | plus h => exact absurd rfl (hplus _)
      | minus h => exact absurd rfl (hminus _)

/-- A text reads as a word if it is a numeral for it. -/
theorem readInt64?_eq_some_iff {text : List Char} {word : Int64} :
    readInt64? text = some word ↔ Numeral text word.toInt := by
  unfold readInt64?
  rw [Option.bind_eq_some_iff]
  constructor
  · rintro ⟨n, hn, hword⟩
    rcases int64?_cases n with ⟨-, -, word', hword', hvalue⟩ | ⟨-, hnone⟩
    · rw [hword'] at hword
      cases hword
      rw [hvalue]
      exact intOfChars?_eq_some_iff.mp hn
    · rw [hnone] at hword
      cases hword
  · intro h
    refine ⟨word.toInt, intOfChars?_eq_some_iff.mpr h, ?_⟩
    rcases int64?_cases word.toInt with ⟨-, -, word', hword', hvalue⟩ | ⟨hbounds, -⟩
    · rw [hword', Int64.toInt_inj.mp hvalue]
    · have hlower := word.le_toInt
      have hupper := word.toInt_lt
      omega

/-- The digits of a number are read as that number. -/
theorem digits_toDigits (n : Nat) : Digits (Nat.toDigits 10 n) n where
  present := Nat.toDigits_ne_nil
  ascii := by
    intro c hc
    have hdigit := Nat.isDigit_of_mem_toDigits (by decide) (by decide) hc
    simpa [Char.isDigit, Char.le_def] using hdigit
  value := by rw [← ofDigitChars_eq_ofDigits, Nat.ofDigitChars_ten_toDigits]

/-- An integer is written as a numeral that denotes it. -/
theorem numeral_intChars (n : Int) : Numeral (intChars n) n := by
  cases n with
  | ofNat n => exact .bare (digits_toDigits n)
  | negSucc n => exact .minus (digits_toDigits (n + 1))

/-- A digit is not blank. -/
theorem isBlank_of_isDigit {c : Char} (h : '0' ≤ c ∧ c ≤ '9') : Text.isBlank c = false := by
  have hlower : 48 ≤ c.toNat := h.1
  have hupper : c.toNat ≤ 57 := h.2
  apply Bool.eq_false_iff.mpr
  intro hblank
  obtain ⟨range, hrange, hfirst, hlast⟩ := (Text.blanks.contains_iff c).mp hblank
  have hapart : ∀ range ∈ Text.blanks.ranges, range.2 < 48 ∨ 57 < range.1 := by decide
  have := hapart range hrange
  omega

/-- No character of a text of digits is blank. -/
theorem Digits.isBlank_eq_false {text : List Char} {n : Nat} (h : Digits text n) {c : Char}
    (hc : c ∈ text) : Text.isBlank c = false :=
  isBlank_of_isDigit (h.ascii c hc)

/-- There is no blank in a numeral. -/
theorem Numeral.isBlank_eq_false {text : List Char} {n : Int} (h : Numeral text n) :
    ∀ c ∈ text, Text.isBlank c = false := by
  cases h with
  | bare h => exact fun c hc => h.isBlank_eq_false hc
  | plus h => exact List.forall_mem_cons.mpr ⟨by decide, fun c hc => h.isBlank_eq_false hc⟩
  | minus h => exact List.forall_mem_cons.mpr ⟨by decide, fun c hc => h.isBlank_eq_false hc⟩

end Decimal

/-- A text without blanks is trimmed to itself. -/
theorem Text.trim_eq_self {text : List Char} (h : ∀ c ∈ text, isBlank c = false) :
    trim text = text := by
  refine (Stripped.eq_trim ⟨⟨[], [], by simp, by simp, by simp⟩, ?_, ?_⟩).symm
  · exact fun c hc => h c (List.mem_of_mem_head? hc)
  · exact fun c hc => h c (List.mem_of_mem_getLast? hc)

/-! ### Characters and their codes -/

/-- The Unicode scalar values: the code points without the surrogates. -/
def IsScalarValue (code : Int) : Prop :=
  0 ≤ code ∧ (code < 0xD800 ∨ 0xDFFF < code) ∧ code ≤ 0x10FFFF

namespace Value

/-- A scalar value is the code of a character. -/
theorem isScalarValue_iff (code : Int) :
    IsScalarValue code ↔ 0 ≤ code ∧ code.toNat.isValidChar := by
  unfold IsScalarValue Nat.isValidChar
  omega

/-- A number that is no scalar value is no character. -/
theorem charOfCode?_eq_none {code : Int} (h : ¬ IsScalarValue code) : charOfCode? code = none := by
  rw [isScalarValue_iff] at h
  simpa [charOfCode?] using h

/-- The code of a character is read as that character. -/
theorem charOfCode?_toNat (c : Char) : charOfCode? c.toNat = some c := by
  have hvalid : c.toNat.isValidChar := c.valid
  simp [charOfCode?, hvalid]

/-- A scalar value is the code of the character that it stands for. -/
theorem exists_charOfCode? {code : Int} (h : IsScalarValue code) :
    ∃ c : Char, charOfCode? code = some c ∧ (c.toNat : Int) = code := by
  obtain ⟨hnonneg, hvalid⟩ := (isScalarValue_iff code).mp h
  refine ⟨Char.ofNat code.toNat, by simp [charOfCode?, hnonneg, hvalid], ?_⟩
  have hcode : (Char.ofNat code.toNat).toNat = code.toNat := by
    rw [Char.ofNat, dif_pos hvalid]
    rfl
  omega

/-- The code of a character fits into a word. -/
theorem toInt_ofNat_toNat (c : Char) : (Int64.ofNat c.toNat).toInt = c.toNat := by
  apply Int64.toInt_ofNat_of_lt
  have hvalid : c.toNat.isValidChar := c.valid
  unfold Nat.isValidChar at hvalid
  omega

/-! ### There and back -/

variable (first second : Options)

/-- A value converted to one type, and what that gives to another. -/
def coerceVia (value : Value) (via target : ValueType) : Outcome Value :=
  (value.coerce first via).bind (fun middle => middle.coerce second target)

/-- What is converted and then converted back, or read as a number, is what it was. -/
structure RoundTrips : Prop where
  int_string_int : ∀ n, coerceVia first second (.int n) .string .int = .success (.int n)
  int_string_number : ∀ n, coerceVia first second (.int n) .string .number = .success (.int n)
  char_string_char : ∀ c, coerceVia first second (.char c) .string .char = .success (.char c)
  char_int_char : ∀ c, coerceVia first second (.char c) .int .char = .success (.char c)
  /-- Exactly the codes of characters convert to characters, -/
  int_char : ∀ n : Int64,
    ((Value.int n).coerce first .char).isSuccess = true ↔ IsScalarValue n.toInt
  /-- and back to the codes that they were. -/
  int_char_int : ∀ n : Int64, IsScalarValue n.toInt →
    coerceVia first second (.int n) .char .int = .success (.int n)
  boolean_string_boolean : ∀ b,
    coerceVia first second (.boolean b) .string .boolean = .success (.boolean b)
  boolean_int_boolean : ∀ b,
    coerceVia first second (.boolean b) .int .boolean = .success (.boolean b)

variable {first second} {options : Options}

/-- If the first conversion succeeds then the second decides. -/
theorem coerceVia_of_success {value middle : Value} {via target : ValueType}
    (h : value.coerce first via = .success middle) :
    coerceVia first second value via target = middle.coerce second target := by
  rw [coerceVia, h]
  rfl

/-- An integer is converted to its decimal text. -/
theorem coerce_int_string (n : Int64) :
    (int n).coerce options .string = .success (.string (Decimal.int64Text n)) :=
  rfl

/-- An integer is converted to the character with its code, if there is one. -/
theorem coerce_int_char (n : Int64) :
    (int n).coerce options .char = .ofOption ((charOfCode? n.toInt).map .char) :=
  rfl

/-- A character is converted to a text by itself. -/
theorem coerce_char_string (c : Char) :
    (char c).coerce options .string = .success (.string (String.singleton c)) :=
  rfl

/-- A character is converted to its code. -/
theorem coerce_char_int (c : Char) :
    (char c).coerce options .int = .success (.int (Int64.ofNat c.toNat)) :=
  rfl

/-- A text is converted to the integer that it reads as, blanks around it aside. -/
theorem coerce_string_int (s : String) :
    (string s).coerce options .int =
      .ofOption ((Decimal.readInt64? (Text.trim s.toList)).map .int) :=
  rfl

/-- A text is converted to the integer that it reads as, or else to the double. -/
theorem coerce_string_number (s : String) :
    (string s).coerce options .number =
      .ofOption (((Decimal.readInt64? (Text.trim s.toList)).map .int).or
        ((Decimal.readDouble? (Text.trim s.toList)).map .double)) := by
  have hread : stringTo? s "Number" =
      ((Decimal.readInt64? (Text.trim s.toList)).map int).or
        ((Decimal.readDouble? (Text.trim s.toList)).map double) := by
    simp only [stringTo?]
    cases Decimal.readInt64? (Text.trim s.toList) <;> rfl
  exact congrArg Outcome.ofOption hread

/-- What is written as the text of an integer is read as that integer. -/
theorem readInt64?_trim_int64Text (n : Int64) :
    Decimal.readInt64? (Text.trim (Decimal.int64Text n).toList) = some n := by
  have hnumeral := Decimal.numeral_intChars n.toInt
  rw [Decimal.int64Text, String.toList_ofList, Text.trim_eq_self hnumeral.isBlank_eq_false]
  exact Decimal.readInt64?_eq_some_iff.mpr hnumeral

/-- An integer comes back from its text as an integer. -/
theorem coerceVia_int_string_int (n : Int64) :
    coerceVia first second (.int n) .string .int = .success (.int n) := by
  rw [coerceVia_of_success (coerce_int_string n), coerce_string_int, readInt64?_trim_int64Text]
  rfl

/-- An integer comes back from its text as a number. -/
theorem coerceVia_int_string_number (n : Int64) :
    coerceVia first second (.int n) .string .number = .success (.int n) := by
  rw [coerceVia_of_success (coerce_int_string n), coerce_string_number, readInt64?_trim_int64Text]
  rfl

/-- A character comes back from its text. -/
theorem coerceVia_char_string_char (c : Char) :
    coerceVia first second (.char c) .string .char = .success (.char c) := by
  have hchar : stringTo? (String.singleton c) "Char" = some (.char c) := by
    simp only [stringTo?, String.toList_singleton]
  rw [coerceVia_of_success (coerce_char_string c)]
  exact congrArg Outcome.ofOption hchar

/-- A character comes back from its code. -/
theorem coerceVia_char_int_char (c : Char) :
    coerceVia first second (.char c) .int .char = .success (.char c) := by
  rw [coerceVia_of_success (coerce_char_int c), coerce_int_char, toInt_ofNat_toNat,
    charOfCode?_toNat]
  rfl

/-- An integer is converted to a character exactly if it is a scalar value. -/
theorem isSuccess_coerce_int_char (n : Int64) :
    ((int n).coerce options .char).isSuccess = true ↔ IsScalarValue n.toInt := by
  rw [coerce_int_char]
  constructor
  · intro h
    by_contra hscalar
    rw [charOfCode?_eq_none hscalar] at h
    cases h
  · intro hscalar
    obtain ⟨c, hc, -⟩ := exists_charOfCode? hscalar
    rw [hc]
    rfl

/-- A scalar value comes back from its character. -/
theorem coerceVia_int_char_int {n : Int64} (h : IsScalarValue n.toInt) :
    coerceVia first second (.int n) .char .int = .success (.int n) := by
  obtain ⟨c, hc, hcode⟩ := exists_charOfCode? h
  have hforth : (int n).coerce first .char = .success (.char c) := by
    rw [coerce_int_char, hc]
    rfl
  have hback : Int64.ofNat c.toNat = n := by
    rw [← Int64.toInt_inj, toInt_ofNat_toNat, hcode]
  rw [coerceVia_of_success hforth, coerce_char_int, hback]

variable (first second) in
/-- All round trips hold under all options. -/
theorem roundTrips : RoundTrips first second where
  int_string_int := coerceVia_int_string_int
  int_string_number := coerceVia_int_string_number
  char_string_char := coerceVia_char_string_char
  char_int_char := coerceVia_char_int_char
  int_char := isSuccess_coerce_int_char
  int_char_int _ := coerceVia_int_char_int
  boolean_string_boolean b := by cases b <;> rfl
  boolean_int_boolean b := by cases b <;> rfl

/-! ### The integers in strings -/

/-- Without the blanks around it, a string is a numeral for an integer of 64 bits. -/
structure Denotes (s : String) (n : Int) : Prop where
  numeral : ∃ core, Text.Stripped s.toList core ∧ Decimal.Numeral core n
  lower : -2 ^ 63 ≤ n
  upper : n ≤ 2 ^ 63 - 1

/-- A string converts to the integer that it denotes, both as an integer and as a number; one that
denotes none does not convert to an integer, and to a double if to any number. -/
structure ReadsIntegers (options : Options) (s : String) : Prop where
  of_denotes : ∀ n, Denotes s n → ∃ word : Int64, word.toInt = n ∧
    (string s).coerce options .int = .success (.int word) ∧
    (string s).coerce options .number = .success (.int word)
  of_not_denotes : (∀ n, ¬ Denotes s n) →
    (string s).coerce options .int = .empty ∧
    ((string s).coerce options .number = .empty ∨
      ∃ d, (string s).coerce options .number = .success (.double d))

/-- A trimmed text reads as a word if the text denotes it. -/
theorem readInt64?_trim_eq_some_iff {s : String} {word : Int64} :
    Decimal.readInt64? (Text.trim s.toList) = some word ↔ Denotes s word.toInt := by
  rw [Decimal.readInt64?_eq_some_iff]
  constructor
  · intro h
    have hupper := word.toInt_lt
    exact ⟨⟨_, Text.stripped_trim _, h⟩, word.le_toInt, by omega⟩
  · rintro ⟨⟨core, hcore, hnumeral⟩, -, -⟩
    rwa [← hcore.eq_trim]

/-- A text is converted to an integer exactly as the grammar says. -/
theorem readsIntegers (options : Options) (s : String) : ReadsIntegers options s where
  of_denotes := by
    intro n h
    have hword : (Int64.ofInt n).toInt = n :=
      Int64.toInt_ofInt_of_le h.lower (by have := h.upper; omega)
    have hread : Decimal.readInt64? (Text.trim s.toList) = some (Int64.ofInt n) :=
      readInt64?_trim_eq_some_iff.mpr (by rwa [hword])
    refine ⟨Int64.ofInt n, hword, ?_, ?_⟩
    · rw [coerce_string_int, hread]
      rfl
    · rw [coerce_string_number, hread]
      rfl
  of_not_denotes := by
    intro h
    have hread : Decimal.readInt64? (Text.trim s.toList) = none :=
      Option.eq_none_iff_forall_ne_some.mpr
        (fun word hword => h _ (readInt64?_trim_eq_some_iff.mp hword))
    constructor
    · rw [coerce_string_int, hread]
      rfl
    · rw [coerce_string_number, hread]
      cases Decimal.readDouble? (Text.trim s.toList) with
      | none => exact .inl rfl
      | some d => exact .inr ⟨d, rfl⟩

/-- Conversions of integers, characters and truth values lead back to where they began, and strings
convert to exactly the integers that they denote. -/
theorem roundTrips_and_readsIntegers (first second : Options) :
    RoundTrips first second ∧ ∀ s, ReadsIntegers first s :=
  ⟨roundTrips first second, readsIntegers first⟩

end Value

end GuardedScript
