import CauseTree.Stack.Backtrace

/-!
# Locations

A location is a file, a line and a column, with colons between them; the column may be left
out. Any text can be a file, so the numbers are found from the end: at most two of them are
cut off, and what is left is the file. A file whose name ends in a colon and digits can be
told from its line only when there is a column.

A number is cut off whatever its size, but one that is not below the bound does not count.
With a column there are two numbers, and the splitter asks which of them count. When it is the
column alone, the column is taken for the line; when it is the line alone, the line is dropped.
The location is split into its file and its line when both numbers count or neither does.
-/

namespace CauseTree.Backtrace

/-- The text consists of decimal digits, at least one of them. -/
def IsNumeral (text : List Char) : Prop := text ≠ [] ∧ ∀ c ∈ text, c.isDigit = true

instance (text : List Char) : Decidable (IsNumeral text) :=
  decidable_of_iff (text ≠ [] ∧ text.all Char.isDigit = true) (by simp [IsNumeral])

/-- The text ends in a colon and digits. -/
def EndsInNumber (text : List Char) : Prop :=
  ∃ before digits, IsNumeral digits ∧ text = before ++ ':' :: digits

/-- The number at the end of a text is cut off with the colon before it. -/
theorem cutNumber?_append {digits : List Char} (numeral : IsNumeral digits) (before : List Char) :
    cutNumber? (before ++ ':' :: digits) = some (before, digits) := by
  obtain ⟨filled, decimal⟩ := numeral
  have reversed : (before ++ ':' :: digits).reverse = digits.reverse ++ ':' :: before.reverse := by
    simp
  have decimalReversed : ∀ c ∈ digits.reverse, c.isDigit = true := by simpa using decimal
  have colon : Char.isDigit ':' = false := by decide
  have taken : (digits.reverse ++ ':' :: before.reverse).takeWhile Char.isDigit =
      digits.reverse := by
    rw [List.takeWhile_append_of_pos decimalReversed]
    simp [colon]
  have dropped : (digits.reverse ++ ':' :: before.reverse).dropWhile Char.isDigit =
      ':' :: before.reverse := by
    rw [List.dropWhile_append_of_pos decimalReversed]
    simp [colon]
  rw [cutNumber?, reversed, taken, dropped]
  cases backwards : digits.reverse with
  | nil => exact absurd (List.reverse_eq_nil_iff.mp backwards) filled
  | cons last earlier =>
    have whole : digits = earlier.reverse ++ [last] := by
      simpa using congrArg List.reverse backwards
    simp [whole]

/-- What is cut off is a number with the colon before it. -/
theorem eq_of_cutNumber? {text before digits : List Char}
    (cut : cutNumber? text = some (before, digits)) :
    IsNumeral digits ∧ text = before ++ ':' :: digits := by
  have parts : text.reverse.takeWhile Char.isDigit ++ text.reverse.dropWhile Char.isDigit =
      text.reverse := List.takeWhile_append_dropWhile
  have decimal : ∀ c ∈ text.reverse.takeWhile Char.isDigit, c.isDigit = true :=
    List.all_eq_true.mp List.all_takeWhile
  unfold cutNumber? at cut
  split at cut
  · next last earlier rest taken dropped =>
    obtain ⟨rfl, rfl⟩ := Prod.mk.inj (Option.some.inj cut)
    rw [taken] at decimal
    rw [taken, dropped] at parts
    refine ⟨⟨by simp, by simpa [or_comm] using decimal⟩, ?_⟩
    have whole := congrArg List.reverse parts
    simpa using whole.symm
  · simp at cut

/-- Nothing is cut off exactly when the text does not end in a number. -/
theorem cutNumber?_eq_none_iff (text : List Char) :
    cutNumber? text = none ↔ ¬ EndsInNumber text := by
  constructor
  · rintro uncut ⟨before, digits, numeral, rfl⟩
    simp [cutNumber?_append numeral] at uncut
  · intro numberless
    cases cut : cutNumber? text with
    | none => rfl
    | some pieces => exact absurd ⟨pieces.1, pieces.2, eq_of_cutNumber? cut⟩ numberless

instance (text : List Char) : Decidable (EndsInNumber text) :=
  decidable_of_iff (¬ cutNumber? text = none)
    (by rw [cutNumber?_eq_none_iff, Classical.not_not])

/-- With two numbers at its end a location is split before both of them. -/
theorem splitLocation_two {line column : List Char} (lineDigits : IsNumeral line)
    (columnDigits : IsNumeral column) (file : List Char) :
    splitLocation (file ++ ':' :: line ++ ':' :: column) =
      (file, (lineNumber? column).map fun number => (lineNumber? line).getD number) := by
  simp only [splitLocation, cutNumber?_append columnDigits, cutNumber?_append lineDigits]

/-- With a column the number further left is the line. -/
example : splitLocation "lib.rs:10:5".toList = ("lib.rs".toList, some 10) := by decide +kernel

/-- With one number at its end a location is split before that one. -/
theorem splitLocation_one {line : List Char} (lineDigits : IsNumeral line) {file : List Char}
    (numberless : ¬ EndsInNumber file) :
    splitLocation (file ++ ':' :: line) = (file, lineNumber? line) := by
  simp only [splitLocation, cutNumber?_append lineDigits,
    (cutNumber?_eq_none_iff file).mpr numberless]

/-- The file of a location always comes back. With a column, the line comes back when it and
the column are below the bound; the column comes in its place when the column alone is, and no
line when the column is not. This is the line, or none for a line that is not below the bound,
exactly when line and column are both below the bound or neither is. Without a column, and
behind a file that does not end in a number itself, it always is. -/
theorem splitLocation_numbers (file line column : List Char) (lineDigits : IsNumeral line)
    (columnDigits : IsNumeral column) :
    splitLocation (file ++ ':' :: line ++ ':' :: column) =
        (file, if decimal column < lineLimit then
          some (if decimal line < lineLimit then decimal line else decimal column) else none) ∧
      (splitLocation (file ++ ':' :: line ++ ':' :: column) =
          (file, if decimal line < lineLimit then some (decimal line) else none) ↔
        (decimal line < lineLimit ↔ decimal column < lineLimit)) ∧
      (¬ EndsInNumber file → splitLocation (file ++ ':' :: line) =
        (file, if decimal line < lineLimit then some (decimal line) else none)) := by
  have whole : splitLocation (file ++ ':' :: line ++ ':' :: column) =
      (file, if decimal column < lineLimit then
        some (if decimal line < lineLimit then decimal line else decimal column) else none) := by
    rw [splitLocation_two lineDigits columnDigits, lineNumber?_eq, lineNumber?_eq]
    by_cases lineCounts : decimal line < lineLimit <;>
      by_cases columnCounts : decimal column < lineLimit <;> simp [lineCounts, columnCounts]
  refine ⟨whole, ?_, ?_⟩
  · rw [whole]
    by_cases lineCounts : decimal line < lineLimit <;>
      by_cases columnCounts : decimal column < lineLimit <;> simp [lineCounts, columnCounts]
  · intro numberless
    rw [splitLocation_one lineDigits numberless, lineNumber?_eq]

/-- Where one of two numbers is below the bound and the other is not, what is found is not the
line, whichever of the two it is. -/
theorem splitLocation_one_wide :
    IsNumeral "4294967296".toList ∧ IsNumeral "5".toList ∧
      ¬ decimal "4294967296".toList < lineLimit ∧ decimal "5".toList < lineLimit ∧
      splitLocation "lib.rs:4294967296:5".toList ≠ ("lib.rs".toList, none) ∧
      splitLocation "lib.rs:5:4294967296".toList ≠ ("lib.rs".toList, some 5) := by
  decide +kernel

/-- A line and a column below the bound give the line. A line that is not below it is replaced
by the column, and a column that is not takes the line away. The same line without a column is
none. -/
theorem splitLocation_numbers_overflow :
    IsNumeral "4294967296".toList ∧ IsNumeral "7".toList ∧ IsNumeral "5".toList ∧
      splitLocation "lib.rs:7:5".toList = ("lib.rs".toList, some 7) ∧
      splitLocation "lib.rs:4294967296:5".toList = ("lib.rs".toList, some 5) ∧
      splitLocation "lib.rs:5:4294967296".toList = ("lib.rs".toList, none) ∧
      ¬ EndsInNumber "lib.rs".toList ∧
      splitLocation "lib.rs:4294967296".toList = ("lib.rs".toList, none) := by
  have wide : IsNumeral "4294967296".toList := by decide +kernel
  have seven : IsNumeral "7".toList := by decide +kernel
  have five : IsNumeral "5".toList := by decide +kernel
  have numberless : ¬ EndsInNumber "lib.rs".toList := by decide +kernel
  have bothCount := (splitLocation_numbers "lib.rs".toList _ _ seven five).2.1.mpr
    (by decide +kernel)
  have wideLine := splitLocation_numbers "lib.rs".toList _ _ wide five
  have wideColumn := splitLocation_numbers "lib.rs".toList _ _ five wide
  exact ⟨wide, seven, five, bothCount.trans (by decide +kernel),
    wideLine.1.trans (by decide +kernel), wideColumn.1.trans (by decide +kernel), numberless,
    (wideLine.2.2 numberless).trans (by decide +kernel)⟩

end CauseTree.Backtrace
