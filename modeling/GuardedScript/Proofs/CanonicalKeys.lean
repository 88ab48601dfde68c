import GuardedScript.Text.Key

/-!
# Keys are canonical

The key of a name consists of the words of the name with an underscore between each two.  What the
words are is said apart from the search for them: `Spells` is the grammar of texts that are made of
given words, and `spells_iff` says that the search finds these words and no others.

Everything about keys follows from one equation, `words_append_cons`: a blank divides the words.
So blanks around a name make no difference to its key, nor does it matter which blanks stand between
two words, and a key, which has no blanks, is its own key.
-/

set_option autoImplicit false

namespace GuardedScript.Text

/-! ### Texts with and without blanks -/

/-- Texts that keys leave as they are. -/
def Blankless (text : String) : Prop :=
  ∀ c ∈ text.toList, isBlank c = false

instance (text : String) : Decidable (Blankless text) :=
  List.decidableBAll (fun c => isBlank c = false) text.toList

/-- Texts that also do not run into what stands behind an underscore. -/
structure Plain (text : String) : Prop where
  blankless : Blankless text
  unmarked : '_' ∉ text.toList

instance (text : String) : Decidable (Plain text) :=
  decidable_of_iff (Blankless text ∧ '_' ∉ text.toList)
    ⟨fun h => ⟨h.1, h.2⟩, fun h => ⟨h.blankless, h.unmarked⟩⟩

/-- Texts without words. -/
def Blank (text : String) : Prop :=
  ∀ c ∈ text.toList, isBlank c = true

instance (text : String) : Decidable (Blank text) :=
  List.decidableBAll (fun c => isBlank c = true) text.toList

/-- Texts that divide what stands on their two sides. -/
structure Gap (text : String) : Prop where
  blank : Blank text
  present : text ≠ ""

instance (text : String) : Decidable (Gap text) :=
  decidable_of_iff (Blank text ∧ text ≠ "")
    ⟨fun h => ⟨h.1, h.2⟩, fun h => ⟨h.blank, h.present⟩⟩

/-- Two texts without blanks have none together. -/
theorem Blankless.append {text other : String} (h : Blankless text) (hother : Blankless other) :
    Blankless (text ++ other) := by
  rw [Blankless, String.toList_append]
  exact List.forall_mem_append.mpr ⟨h, hother⟩

/-- The code points of the characters with the property `White_Space`, one by one. -/
def whiteSpace : List Nat :=
  [0x9, 0xA, 0xB, 0xC, 0xD, 0x20, 0x85, 0xA0, 0x1680, 0x2000, 0x2001, 0x2002, 0x2003, 0x2004,
    0x2005, 0x2006, 0x2007, 0x2008, 0x2009, 0x200A, 0x2028, 0x2029, 0x202F, 0x205F, 0x3000]

/-- The table of blanks has these characters and no others. -/
theorem isBlank_iff_mem_whiteSpace (c : Char) : isBlank c = true ↔ c.toNat ∈ whiteSpace := by
  have hcodes : whiteSpace = blanks.ranges.flatMap
      (fun range => List.range' range.1 (range.2 + 1 - range.1)) := by decide
  rw [isBlank, CodeTable.contains_iff, hcodes, List.mem_flatMap]
  refine exists_congr (fun range => and_congr_right (fun _ => ?_))
  rw [List.mem_range'_1]
  omega

/-! ### The grammar of words -/

/-- A text is made of words, in their order, with blanks between them and perhaps around them. -/
inductive Spells : List Char → List (List Char) → Prop
  | nil : Spells [] []
  /-- A blank belongs to no word. -/
  | blank {c : Char} {rest : List Char} {pieces : List (List Char)} (blank : isBlank c = true)
      (spells : Spells rest pieces) : Spells (c :: rest) pieces
  /-- A word goes on up to the next blank or the end of the text. -/
  | word {word rest : List Char} {pieces : List (List Char)} (present : word ≠ [])
      (blankless : ∀ c ∈ word, isBlank c = false) (ends : ∀ c ∈ rest.head?, isBlank c = true)
      (spells : Spells rest pieces) : Spells (word ++ rest) (word :: pieces)

section Words

variable {text before after gap word : List Char} {pieces : List (List Char)} {c : Char}

/-- The words that a text spells have no blanks. -/
theorem Spells.blankless (h : Spells text pieces) :
    ∀ word ∈ pieces, ∀ c ∈ word, isBlank c = false := by
  induction h with
  | nil => exact fun _ hmem => absurd hmem List.not_mem_nil
  | blank _ _ ih => exact ih
  | word _ blankless _ _ ih => exact List.forall_mem_cons.mpr ⟨blankless, ih⟩

/-- What stands in front of a blank or of the end is a word, unless it is empty. -/
theorem Spells.behind (h : Spells after pieces) (htext : text = word ++ after)
    (hword : ∀ c ∈ word, isBlank c = false) (hends : ∀ c ∈ after.head?, isBlank c = true) :
    Spells text (if word.isEmpty then pieces else word :: pieces) := by
  subst htext
  cases word with
  | nil => exact h
  | cons c word => exact .word (List.cons_ne_nil _ _) hword hends h

/-- Before a blank there is no word to cut. -/
theorem cutWord_cons_of_blank (hblank : isBlank c = true) :
    cutWord (c :: text) = ([], words text) := by
  simp [cutWord, words, hblank]

/-- A character that is not blank belongs to the first word. -/
theorem cutWord_cons_of_not_blank (hblank : isBlank c = false) :
    cutWord (c :: text) = (c :: (cutWord text).1, (cutWord text).2) := by
  simp [cutWord, hblank]

/-- What stands before the first blank has no blanks, and what stands behind is made of the words
that were found there. -/
theorem spells_cutWord (text : List Char) :
    ∃ after, text = (cutWord text).1 ++ after ∧ (∀ c ∈ (cutWord text).1, isBlank c = false) ∧
      (∀ c ∈ after.head?, isBlank c = true) ∧ Spells after (cutWord text).2 := by
  induction text with
  | nil => exact ⟨[], rfl, by simp [cutWord], by simp, .nil⟩
  | cons c text ih =>
    obtain ⟨after, htext, hword, hends, hafter⟩ := ih
    cases hc : isBlank c with
    | false =>
      rw [cutWord_cons_of_not_blank hc]
      exact ⟨after, congrArg (List.cons c) htext, List.forall_mem_cons.mpr ⟨hc, hword⟩, hends,
        hafter⟩
    | true =>
      have hrest : Spells text (words text) := hafter.behind htext hword hends
      rw [cutWord_cons_of_blank hc]
      exact ⟨c :: text, rfl, by simp, by simpa using hc, .blank hc hrest⟩

/-- A text is made of the words that are found in it. -/
theorem spells_words (text : List Char) : Spells text (words text) := by
  obtain ⟨after, htext, hword, hends, hafter⟩ := spells_cutWord text
  exact hafter.behind htext hword hends

/-! ### A blank divides the words -/

/-- A text without blanks is cut as one word. -/
theorem cutWord_of_blankless (h : ∀ c ∈ text, isBlank c = false) : cutWord text = (text, []) := by
  induction text with
  | nil => rfl
  | cons c text ih =>
    obtain ⟨hfirst, hrest⟩ := List.forall_mem_cons.mp h
    rw [cutWord_cons_of_not_blank hfirst, ih hrest]

/-- A text without blanks is one word. -/
theorem words_of_blankless (present : word ≠ []) (h : ∀ c ∈ word, isBlank c = false) :
    words word = [word] := by
  simp [words, cutWord_of_blankless h, present]

/-- If the first word is the same and further ones come after, then so it is for all words. -/
theorem words_eq_append {others : List (List Char)}
    (h : cutWord text = ((cutWord before).1, (cutWord before).2 ++ others)) :
    words text = words before ++ others := by
  simp only [words, h]
  by_cases hempty : (cutWord before).1 = []
  · simp [hempty]
  · simp [hempty]

/-- A blank ends the words before it. -/
theorem cutWord_append_cons (hblank : isBlank c = true) :
    cutWord (before ++ c :: after) = ((cutWord before).1, (cutWord before).2 ++ words after) := by
  induction before with
  | nil => exact cutWord_cons_of_blank hblank
  | cons d before ih =>
    rw [List.cons_append]
    cases hd : isBlank d with
    | false => rw [cutWord_cons_of_not_blank hd, cutWord_cons_of_not_blank hd, ih]
    | true => rw [cutWord_cons_of_blank hd, cutWord_cons_of_blank hd, words_eq_append ih]

/-- The words on the two sides of a blank are found apart. -/
theorem words_append_cons (hblank : isBlank c = true) :
    words (before ++ c :: after) = words before ++ words after :=
  words_eq_append (cutWord_append_cons hblank)

/-- A blank in front has no part in the words. -/
theorem words_cons (hblank : isBlank c = true) : words (c :: after) = words after := by
  have hwords : words ([] ++ c :: after) = words [] ++ words after := words_append_cons hblank
  exact hwords

/-- Blanks before a text add no words. -/
theorem words_append_left (hgap : ∀ c ∈ gap, isBlank c = true) :
    words (gap ++ after) = words after := by
  induction gap with
  | nil => rfl
  | cons c gap ih =>
    obtain ⟨hblank, hgap⟩ := List.forall_mem_cons.mp hgap
    rw [List.cons_append, words_cons hblank, ih hgap]

/-- Blanks divide the words, however many and whichever they are. -/
theorem words_append_gap (present : gap ≠ []) (hgap : ∀ c ∈ gap, isBlank c = true) :
    words (before ++ (gap ++ after)) = words before ++ words after := by
  cases gap with
  | nil => exact absurd rfl present
  | cons c gap =>
    obtain ⟨hblank, hgap⟩ := List.forall_mem_cons.mp hgap
    rw [List.cons_append, words_append_cons hblank, words_append_left hgap]

/-- A text has no words if it is all blank. -/
theorem words_eq_nil_iff : words text = [] ↔ ∀ c ∈ text, isBlank c = true := by
  constructor
  · intro h
    induction text with
    | nil => exact fun _ hmem => absurd hmem List.not_mem_nil
    | cons c text ih =>
      cases hc : isBlank c with
      | false => simp [words, cutWord, hc] at h
      | true =>
        rw [words_cons hc] at h
        exact List.forall_mem_cons.mpr ⟨hc, ih h⟩
  · intro h
    have hwords : words (text ++ []) = words [] := words_append_left h
    rwa [List.append_nil] at hwords

/-- Blanks behind a text add no words. -/
theorem words_append_right (hgap : ∀ c ∈ gap, isBlank c = true) :
    words (before ++ gap) = words before := by
  cases gap with
  | nil => rw [List.append_nil]
  | cons c gap =>
    obtain ⟨hblank, hgap⟩ := List.forall_mem_cons.mp hgap
    rw [words_append_cons hblank, words_eq_nil_iff.mpr hgap, List.append_nil]

/-- No other words are found in a text than those that it is made of. -/
theorem Spells.eq_words (h : Spells text pieces) : pieces = words text := by
  induction h with
  | nil => rfl
  | blank blank _ ih => rw [words_cons blank, ih]
  | @word word rest pieces present blankless ends _ ih =>
    cases rest with
    | nil =>
      rw [List.append_nil, words_of_blankless present blankless, ih]
      rfl
    | cons c rest =>
      have hblank : isBlank c = true := ends c rfl
      rw [words_append_cons hblank, words_of_blankless present blankless, ih, words_cons hblank]
      rfl

/-- A text spells exactly its words. -/
theorem spells_iff : Spells text pieces ↔ pieces = words text :=
  ⟨Spells.eq_words, fun h => h ▸ spells_words text⟩

end Words

/-! ### Keys -/

/-- A key is the words of the name with marks in between. -/
theorem toList_key (name : String) :
    (key name).toList = List.intercalate ['_'] (words name.toList) := by
  rw [key, keyChars, String.toList_ofList]

/-- Names with the same words have the same key. -/
theorem key_congr {name other : String} (h : words name.toList = words other.toList) :
    key name = key other := by
  rw [key, key, keyChars, keyChars, h]

/-- A name without blanks is its own key. -/
theorem Blankless.key_eq {name : String} (h : Blankless name) : key name = name := by
  have hwords : List.intercalate ['_'] (words name.toList) = name.toList := by
    simp only [words, cutWord_of_blankless h]
    cases name.toList with
    | nil => rfl
    | cons c rest => simp
  rw [key, keyChars, hwords, String.ofList_toList]

/-- Words without blanks have none with marks in between. -/
theorem blankless_intercalate {pieces : List (List Char)}
    (h : ∀ word ∈ pieces, ∀ c ∈ word, isBlank c = false) :
    ∀ c ∈ List.intercalate ['_'] pieces, isBlank c = false := by
  induction pieces with
  | nil => simp
  | cons word pieces ih =>
    obtain ⟨hword, hpieces⟩ := List.forall_mem_cons.mp h
    have hmark : isBlank '_' = false := by decide +kernel
    cases pieces with
    | nil => simpa using hword
    | cons next pieces =>
      have hrest := ih hpieces
      rw [List.intercalate_cons_cons]
      exact List.forall_mem_append.mpr
        ⟨List.forall_mem_append.mpr ⟨hword, List.forall_mem_singleton.mpr hmark⟩, hrest⟩

/-- Keys have no blanks. -/
theorem blankless_key (name : String) : Blankless (key name) := by
  rw [Blankless, toList_key]
  exact blankless_intercalate (spells_words name.toList).blankless

/-- Making a key once more changes nothing. -/
@[simp]
theorem key_key (name : String) : key (key name) = key name :=
  (blankless_key name).key_eq

/-- The names that are their own keys are those without blanks. -/
theorem key_eq_self_iff {name : String} : key name = name ↔ Blankless name :=
  ⟨fun h => h ▸ blankless_key name, Blankless.key_eq⟩

section Gaps

variable {name rest before after gap : String}

/-- The words around a gap are those before it and those behind it. -/
theorem Gap.words_append (h : Gap gap) (name rest : String) :
    words (name ++ gap ++ rest).toList = words name.toList ++ words rest.toList := by
  rw [String.toList_append, String.toList_append, List.append_assoc]
  exact words_append_gap (mt String.toList_eq_nil_iff.mp h.present) h.blank

/-- Blanks around a name make no difference to its key. -/
theorem key_append_of_blank (hbefore : Blank before) (hafter : Blank after) :
    key (before ++ name ++ after) = key name := by
  apply key_congr
  rw [String.toList_append, String.toList_append, List.append_assoc, words_append_left hbefore,
    words_append_right hafter]

/-- Two lists of words are joined by one more mark. -/
theorem intercalate_append {pieces others : List (List Char)} (hpieces : pieces ≠ [])
    (hothers : others ≠ []) :
    List.intercalate ['_'] (pieces ++ others) =
      List.intercalate ['_'] pieces ++ ['_'] ++ List.intercalate ['_'] others := by
  induction pieces with
  | nil => exact absurd rfl hpieces
  | cons word pieces ih =>
    cases pieces with
    | nil =>
      rw [List.singleton_append, List.intercalate_cons_of_ne_nil hothers,
        List.intercalate_singleton]
    | cons next pieces =>
      rw [List.cons_append, List.intercalate_cons_of_ne_nil (by simp), ih (List.cons_ne_nil _ _),
        List.intercalate_cons_cons]
      simp only [List.append_assoc]

/-- Blanks between two names that have words become one underscore. -/
theorem Gap.key_append (h : Gap gap) (hname : ¬ Blank name) (hrest : ¬ Blank rest) :
    key (name ++ gap ++ rest) = key name ++ "_" ++ key rest := by
  have hpieces : words name.toList ≠ [] := fun hnil => hname (words_eq_nil_iff.mp hnil)
  have hothers : words rest.toList ≠ [] := fun hnil => hrest (words_eq_nil_iff.mp hnil)
  apply String.toList_inj.mp
  rw [toList_key, h.words_append, intercalate_append hpieces hothers, String.toList_append,
    String.toList_append, toList_key, toList_key]
  rfl

end Gaps

/-- Keys are canonical.  The key of a name is made of the words of the name, which are given by the
text alone, with an underscore between each two; it has no blanks, it is the name itself exactly if
the name has none, and it is its own key.  Blanks around a name may be added, the blanks between
two words may be replaced by any others, and between two names that have words they become one
underscore.  The blanks are the characters with the property `White_Space`. -/
theorem key_canonical (name : String) :
    (∃ pieces, (∀ others, Spells name.toList others ↔ others = pieces) ∧
        (key name).toList = List.intercalate ['_'] pieces) ∧
      Blankless (key name) ∧
      (key name = name ↔ Blankless name) ∧
      key (key name) = key name ∧
      (∀ before after, Blank before → Blank after → key (before ++ name ++ after) = key name) ∧
      (∀ gap other rest, Gap gap → Gap other →
        key (name ++ gap ++ rest) = key (name ++ other ++ rest)) ∧
      (∀ gap rest, Gap gap → ¬ Blank name → ¬ Blank rest →
        key (name ++ gap ++ rest) = key name ++ "_" ++ key rest) ∧
      ∀ c, isBlank c = true ↔ c.toNat ∈ whiteSpace := by
  refine ⟨⟨words name.toList, fun _ => spells_iff, toList_key name⟩, blankless_key name,
    key_eq_self_iff, key_key name, ?_, ?_, ?_, isBlank_iff_mem_whiteSpace⟩
  · exact fun _ _ hbefore hafter => key_append_of_blank hbefore hafter
  · intro gap other rest hgap hother
    apply key_congr
    rw [hgap.words_append, hother.words_append]
  · exact fun _ _ hgap hname hrest => hgap.key_append hname hrest

/-- A name in spaces, tabs and wide spaces. -/
theorem key_canonical_spaced :
    key ("\t " ++ "get it" ++ "\u3000") = key "get it" ∧
      key ("get it" ++ "\u2003\n" ++ "now_") = key ("get it" ++ " " ++ "now_") ∧
      key ("get it" ++ "\u2003\n" ++ "now_") = key "get it" ++ "_" ++ key "now_" := by
  obtain ⟨-, -, -, -, haround, hreplaced, hjoined, -⟩ := key_canonical "get it"
  have hgap : Gap "\u2003\n" := by decide +kernel
  refine ⟨haround _ _ (by decide +kernel) (by decide +kernel), ?_, ?_⟩
  · exact hreplaced _ _ _ hgap (by decide +kernel)
  · exact hjoined _ _ hgap (by decide +kernel) (by decide +kernel)

end GuardedScript.Text
