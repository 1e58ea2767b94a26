import CauseTree.Proofs.Locations

/-!
# Printed backtraces

A backtrace is printed symbol by symbol. The function of a symbol stands on a line, behind an
index, or without one where the symbol was inlined; its location, when it is known, stands on
the line after it. A line may be indented by any white space, may have a carriage return
before its line feed, and there may be blank lines between all others. None of this is read:
a backtrace is read as its bare lines.

What a bare line is shows at its start, so functions and files may hold anything that does not
make one kind of line start like another. Behind an index a function may even start like a
location. Each symbol with a location is read as a frame that is located right after it is
opened, so that no location goes to the frame of another symbol.
-/

namespace CauseTree

namespace Text

/-- The text neither starts nor ends with a blank. -/
def IsUnpadded (text : List Char) : Prop :=
  (∀ c ∈ text.head?, isBlank c = false) ∧ ∀ c ∈ text.getLast?, isBlank c = false

instance (text : List Char) : Decidable (IsUnpadded text) :=
  decidable_of_iff
    (text.head?.all (!isBlank ·) = true ∧ text.getLast?.all (!isBlank ·) = true)
    (by simp [IsUnpadded, Option.all_eq_true])

/-- What is dropped from the start of a text ends where the rest of it starts. -/
theorem dropWhile_exact {drop : Char → Bool} {before text : List Char}
    (inside : ∀ c ∈ before, drop c = true) (boundary : ∀ c ∈ text.head?, drop c = false) :
    (before ++ text).dropWhile drop = text := by
  rw [List.dropWhile_append_of_pos inside]
  cases text with
  | nil => rfl
  | cons first rest => simp [boundary first rfl]

/-- Of blanks alone nothing is left. -/
theorem trim_blank {space : List Char} (blank : ∀ c ∈ space, isBlank c = true) :
    trim space = [] := by
  have dropped : (space ++ []).dropWhile isBlank = [] := dropWhile_exact blank (by simp)
  rw [List.append_nil] at dropped
  rw [trim, dropped]
  rfl

/-- Blanks around a text that has none at its ends are removed, and no more than these. -/
theorem trim_padded {before text after : List Char} (beforeBlank : ∀ c ∈ before, isBlank c = true)
    (afterBlank : ∀ c ∈ after, isBlank c = true) (filled : text ≠ []) (unpadded : IsUnpadded text) :
    trim (before ++ text ++ after) = text := by
  have left : (before ++ (text ++ after)).dropWhile isBlank = text ++ after := by
    apply dropWhile_exact beforeBlank
    obtain ⟨first, rest, rfl⟩ := List.exists_cons_of_ne_nil filled
    exact unpadded.1
  have right : (after.reverse ++ text.reverse).dropWhile isBlank = text.reverse := by
    apply dropWhile_exact (by simpa using afterBlank)
    rw [List.head?_reverse]
    exact unpadded.2
  rw [trim, List.append_assoc, left, trimRight, List.reverse_append, right, List.reverse_reverse]

/-- A text is unpadded when its start does not start with a blank and its end does not end
with one. -/
theorem unpadded_append {before after : List Char} (started : before ≠ []) (ended : after ≠ [])
    (first : ∀ c ∈ before.head?, isBlank c = false)
    (last : ∀ c ∈ after.getLast?, isBlank c = false) : IsUnpadded (before ++ after) := by
  constructor
  · obtain ⟨c, rest, rfl⟩ := List.exists_cons_of_ne_nil started
    exact first
  · rw [List.getLast?_append]
    cases ending : after.getLast? with
    | none => exact absurd (List.getLast?_eq_none_iff.mp ending) ended
    | some c => exact fun d same => last d (ending.trans same)

/-- A decimal digit is not blank. -/
theorem isBlank_of_isDigit {c : Char} (digit : c.isDigit = true) : isBlank c = false := by
  simp only [Char.isDigit, Bool.and_eq_true, decide_eq_true_eq] at digit
  have low : 48 ≤ c.toNat := digit.1
  have high : c.toNat ≤ 57 := digit.2
  simp only [isBlank, Bool.or_eq_false_iff, Bool.and_eq_false_iff, decide_eq_false_iff_not,
    beq_eq_false_iff_ne]
  omega

end Text

namespace Backtrace

/-- Where a symbol stands: a file, a line, and a column when it is known. -/
structure Location where
  file : String
  line : Nat
  column : Option Nat

/-- A symbol of a backtrace. It has no index where it was inlined. -/
structure Symbol where
  index : Option String
  function : String
  location : Option Location

namespace Location

/-- The file, the line and the column where there is one, with colons between them. -/
def text (location : Location) : List Char :=
  match location.column with
  | none => location.file.toList ++ ':' :: location.line.repr.toList
  | some column =>
    location.file.toList ++ ':' :: location.line.repr.toList ++ ':' :: column.repr.toList

/-- The bare line of a location. -/
def row (location : Location) : List Char := ['a', 't', ' '] ++ location.text

end Location

namespace Symbol

/-- What is printed before the function: the index with a colon and a space after it. -/
def mark (symbol : Symbol) : List Char :=
  match symbol.index with
  | none => []
  | some index => index.toList ++ [':', ' ']

/-- The bare line of a function. -/
def heading (symbol : Symbol) : List Char := symbol.mark ++ symbol.function.toList

/-- The bare lines of a symbol. -/
def rows (symbol : Symbol) : List (List Char) :=
  symbol.heading :: (symbol.location.map Location.row).toList

/-- The frame that a symbol stands for. The column is not kept. -/
def frame (symbol : Symbol) : Frame :=
  ⟨symbol.function, symbol.location.map Location.file, symbol.location.map Location.line⟩

end Symbol

/-- How a printed line ends. -/
inductive LineEnd where
  | feed
  | returnAndFeed

/-- The characters that end a line. -/
def LineEnd.chars : LineEnd → List Char
  | feed => ['\n']
  | returnAndFeed => ['\r', '\n']

/-- White space that stays on its line. -/
def IsSpace (text : List Char) : Prop := ∀ c ∈ text, Text.isBlank c = true ∧ c ≠ '\n'

instance (text : List Char) : Decidable (IsSpace text) :=
  decidable_of_iff (text.all (fun c => Text.isBlank c && c != '\n') = true) (by simp [IsSpace])

/-- The bare lines are printed as the text: in order, each indented by some white space, with
blank lines anywhere, and every line ended. -/
inductive Printed : (rows : List (List Char)) → (text : List Char) → Prop where
  | done : Printed [] []
  | blank {rows : List (List Char)} {text space : List Char} (ending : LineEnd)
      (empty : IsSpace space) (later : Printed rows text) :
      Printed rows (space ++ ending.chars ++ text)
  | row {rows : List (List Char)} {text indent : List Char} (row : List Char) (ending : LineEnd)
      (empty : IsSpace indent) (later : Printed rows text) :
      Printed (row :: rows) (indent ++ row ++ ending.chars ++ text)

/-- What allows a location to be read back. Only without a column must the file not end in a
number, since it would be taken for the line. -/
structure Location.Legible (location : Location) : Prop where
  unbroken : '\n' ∉ location.file.toList
  line : location.line < lineLimit
  column : ∀ column ∈ location.column, column < lineLimit
  numberless : location.column = none → ¬ EndsInNumber location.file.toList

/-- The text starts with digits, of which there may be none, and a colon and a space after
them. -/
def StartsIndexed (text : List Char) : Prop :=
  ∃ digits name, (∀ c ∈ digits, Char.isDigit c = true) ∧ text = digits ++ ':' :: ' ' :: name

/-- A text starts with an index when a colon and a space follow its digits. -/
theorem startsIndexed_iff (text : List Char) :
    StartsIndexed text ↔ [':', ' '] <+: text.dropWhile Char.isDigit := by
  constructor
  · rintro ⟨digits, name, decimal, rfl⟩
    have rest : (digits ++ ':' :: ' ' :: name).dropWhile Char.isDigit = ':' :: ' ' :: name :=
      Text.dropWhile_exact decimal (by simp)
    exact ⟨name, rest.symm⟩
  · rintro ⟨name, rest⟩
    have parts : text.takeWhile Char.isDigit ++ text.dropWhile Char.isDigit = text :=
      List.takeWhile_append_dropWhile
    rw [← rest] at parts
    exact ⟨text.takeWhile Char.isDigit, name, List.all_eq_true.mp List.all_takeWhile, parts.symm⟩

instance (text : List Char) : Decidable (StartsIndexed text) :=
  decidable_of_iff ([':', ' '] <+: text.dropWhile Char.isDigit) (startsIndexed_iff text).symm

/-- What allows a symbol to be read back. Only without an index must the function not look like
a location or like a function behind an index. -/
structure Symbol.Legible (symbol : Symbol) : Prop where
  filled : symbol.function ≠ ""
  unpadded : Text.IsUnpadded symbol.function.toList
  unbroken : '\n' ∉ symbol.function.toList
  index : ∀ index ∈ symbol.index, ∀ c ∈ index.toList, c.isDigit = true
  unlocated : symbol.index = none → ¬ ['a', 't', ' '] <+: symbol.function.toList
  unindexed : symbol.index = none → ¬ StartsIndexed symbol.function.toList
  location : ∀ location ∈ symbol.location, location.Legible

/-- A text that can stand on a line, so that all of it is read and nothing around it. -/
structure Bare (row : List Char) : Prop where
  filled : row ≠ []
  unpadded : Text.IsUnpadded row
  unbroken : '\n' ∉ row

/-- What follows a given start is found. -/
theorem after?_append (start rest : List Char) : after? start (start ++ rest) = some rest := by
  simp [after?]

/-- Without the given start nothing is found after it. -/
theorem after?_eq_none {start text : List Char} (different : ¬ start <+: text) :
    after? start text = none := by
  simp [after?, List.isPrefixOf_iff_prefix, different]

section Bare

variable {row : List Char} (bare : Bare row)
include bare

/-- Trimming leaves a bare line as it is. -/
theorem trim_bare : Text.trim row = row := by
  have alone : Text.trim ([] ++ row ++ []) = row :=
    Text.trim_padded (by simp) (by simp) bare.filled bare.unpadded
  rwa [List.nil_append, List.append_nil] at alone

/-- White space around a bare line is not read. -/
theorem readLine_padded (frames : List Frame) {before after : List Char} (indent : IsSpace before)
    (trailing : IsSpace after) :
    readLine frames (before ++ row ++ after) = readLine frames row := by
  have padded : Text.trim (before ++ row ++ after) = row :=
    Text.trim_padded (fun c member => (indent c member).1) (fun c member => (trailing c member).1)
      bare.filled bare.unpadded
  simp only [readLine, trim_bare bare, padded]

/-- A bare line opens a frame unless it starts like a location. -/
theorem readLine_opening (frames : List Frame) (unlocated : ¬ ['a', 't', ' '] <+: row) :
    readLine frames row = ⟨String.ofList (symbol row), none, none⟩ :: frames := by
  simp only [readLine, trim_bare bare, after?_eq_none unlocated,
    List.isEmpty_eq_false_iff.mpr bare.filled, Bool.false_eq_true, if_false]

end Bare

/-- White space alone is not read. -/
theorem readLine_space (frames : List Frame) {space : List Char} (empty : IsSpace space) :
    readLine frames space = frames := by
  have blank : Text.trim space = [] := Text.trim_blank fun c member => (empty c member).1
  simp [readLine, blank]

/-- A line ends in a line feed, with nothing but white space before it. -/
theorem LineEnd.chars_eq (ending : LineEnd) :
    ∃ space, IsSpace space ∧ ending.chars = space ++ ['\n'] := by
  cases ending with
  | feed => exact ⟨[], by decide, rfl⟩
  | returnAndFeed => exact ⟨['\r'], by decide, rfl⟩

/-- White space on a line holds no line feed. -/
theorem IsSpace.unbroken {space : List Char} (empty : IsSpace space) : '\n' ∉ space :=
  fun member => (empty '\n' member).2 rfl

/-- A printed text is read as its bare lines. -/
theorem foldl_printed {rows : List (List Char)} {text : List Char} (printed : Printed rows text)
    (bare : ∀ row ∈ rows, Bare row) (frames : List Frame) :
    (text.splitOn '\n').foldl readLine frames = rows.foldl readLine frames := by
  induction printed generalizing frames with
  | done => rfl
  | @blank rows text space ending empty later inductionHypothesis =>
    obtain ⟨trailing, trailingEmpty, ended⟩ := ending.chars_eq
    have line : space ++ ending.chars ++ text = (space ++ trailing) ++ '\n' :: text := by
      simp [ended]
    have wholeEmpty : IsSpace (space ++ trailing) :=
      List.forall_mem_append.mpr ⟨empty, trailingEmpty⟩
    rw [line, List.splitOn_append_cons_self_of_not_mem wholeEmpty.unbroken, List.foldl_cons,
      readLine_space frames wholeEmpty, inductionHypothesis bare]
  | @row rows text indent row ending empty later inductionHypothesis =>
    obtain ⟨first, others⟩ := List.forall_mem_cons.mp bare
    obtain ⟨trailing, trailingEmpty, ended⟩ := ending.chars_eq
    have line : indent ++ row ++ ending.chars ++ text =
        (indent ++ row ++ trailing) ++ '\n' :: text := by
      simp [ended]
    have unbroken : '\n' ∉ indent ++ row ++ trailing := by
      simp [empty.unbroken, first.unbroken, trailingEmpty.unbroken]
    rw [line, List.splitOn_append_cons_self_of_not_mem unbroken, List.foldl_cons, List.foldl_cons,
      readLine_padded first frames empty trailingEmpty, inductionHypothesis others]

/-- The digits that are printed for a number are a numeral. -/
theorem isNumeral_repr (number : Nat) : IsNumeral number.repr.toList := by
  rw [Nat.toList_repr]
  exact ⟨Nat.toDigits_ne_nil, fun c member =>
    Nat.isDigit_of_mem_toDigits (by decide) (by decide) member⟩

/-- The digits that are printed for a number stand for it. -/
theorem decimal_repr (number : Nat) : decimal number.repr.toList = number := by
  have steps : (fun value digit => value * 10 + (Char.toNat digit - '0'.toNat)) =
      fun value digit => 10 * value + (Char.toNat digit - '0'.toNat) := by
    funext value digit
    rw [Nat.mul_comm]
  rw [Nat.toList_repr, decimal, steps]
  exact Nat.ofDigitChars_toDigits (by decide) (by decide)

/-- A line number below the bound comes back from its digits. -/
theorem lineNumber?_repr {number : Nat} (below : number < lineLimit) :
    lineNumber? number.repr.toList = some number := by
  rw [lineNumber?_eq, decimal_repr, if_pos below]

/-- Digits stay on their line. -/
theorem unbroken_of_digits {digits : List Char} (decimal : ∀ c ∈ digits, c.isDigit = true) :
    '\n' ∉ digits := by
  intro member
  exact absurd (decimal '\n' member) (by decide)

namespace Location

variable {location : Location}

/-- A location ends in a number. -/
theorem text_ends (location : Location) :
    ∃ (start : List Char) (number : Nat), location.text = start ++ number.repr.toList := by
  unfold text
  cases location.column with
  | none => exact ⟨location.file.toList ++ [':'], location.line, by simp⟩
  | some column =>
    exact ⟨location.file.toList ++ ':' :: location.line.repr.toList ++ [':'], column, by simp⟩

/-- A location stays on its line when its file does. -/
theorem text_unbroken (unbroken : '\n' ∉ location.file.toList) : '\n' ∉ location.text := by
  have number (value : Nat) : '\n' ∉ value.repr.toList :=
    unbroken_of_digits (isNumeral_repr value).2
  unfold text
  cases location.column with
  | none => simp [unbroken, number, -Nat.toList_repr]
  | some column => simp [unbroken, number, -Nat.toList_repr]

section Legible

variable (legible : location.Legible)
include legible

/-- The line of a location is bare. -/
theorem bare_row : Bare location.row := by
  obtain ⟨start, number, ends⟩ := text_ends location
  have digits : IsNumeral number.repr.toList := isNumeral_repr number
  have whole : location.row = (['a', 't', ' '] ++ start) ++ number.repr.toList := by
    rw [row, ends, List.append_assoc]
  refine ⟨by simp [row], ?_, ?_⟩
  · rw [whole]
    apply Text.unpadded_append (by simp) digits.1 (by simp; decide)
    intro c last
    exact Text.isBlank_of_isDigit (digits.2 c (List.mem_of_getLast? last))
  · simp [row, text_unbroken legible.unbroken]

/-- A location is split into its file and its line. -/
theorem splitLocation_text :
    splitLocation location.text = (location.file.toList, some location.line) := by
  have line := lineNumber?_repr legible.line
  unfold text
  cases column : location.column with
  | none =>
    rw [splitLocation_one (isNumeral_repr _) (legible.numberless column), line]
  | some number =>
    rw [splitLocation_two (isNumeral_repr _) (isNumeral_repr _), line,
      lineNumber?_repr (legible.column number column)]
    rfl

/-- The line of a location locates the most recent frame. -/
theorem readLine_row (frame : Frame) (earlier : List Frame) :
    readLine (frame :: earlier) location.row =
      { frame with file := some location.file, line := some location.line } :: earlier := by
  have bare := bare_row legible
  have found : after? ['a', 't', ' '] location.row = some location.text :=
    after?_append ['a', 't', ' '] location.text
  simp only [readLine, trim_bare bare, List.isEmpty_eq_false_iff.mpr bare.filled,
    Bool.false_eq_true, if_false, found, locate, splitLocation_text legible, String.ofList_toList]

end Legible

end Location

namespace Symbol

variable {symbol : Symbol}

/-- The mark of an index starts with a digit, or with the colon where there are no digits. -/
theorem mark_indexed {index : String} (decimal : ∀ c ∈ index.toList, c.isDigit = true) :
    ∃ first rest, index.toList ++ [':', ' '] = first :: rest ∧
      (first.isDigit = true ∨ first = ':') := by
  cases digits : index.toList with
  | nil => exact ⟨':', [' '], rfl, .inr rfl⟩
  | cons digit more =>
    have first : digit.isDigit = true := decimal digit (by simp [digits])
    exact ⟨digit, more ++ [':', ' '], rfl, .inl first⟩

section Legible

variable (legible : symbol.Legible)
include legible

/-- The line of a function is bare. -/
theorem bare_heading : Bare symbol.heading := by
  have filled : symbol.function.toList ≠ [] := by simpa using legible.filled
  unfold heading mark
  cases index : symbol.index with
  | none => exact ⟨filled, legible.unpadded, legible.unbroken⟩
  | some digits =>
    have decimal := legible.index digits index
    refine ⟨by simp, ?_, by simp [unbroken_of_digits decimal, legible.unbroken]⟩
    obtain ⟨first, rest, mark, start⟩ := mark_indexed decimal
    apply Text.unpadded_append (by simp) filled _ legible.unpadded.2
    simp only [mark, List.head?_cons, Option.mem_some_iff, forall_eq']
    rcases start with digit | rfl
    · exact Text.isBlank_of_isDigit digit
    · decide

/-- The line of a function does not start like a location. -/
theorem unlocated_heading : ¬ ['a', 't', ' '] <+: symbol.heading := by
  unfold heading mark
  cases index : symbol.index with
  | none => exact legible.unlocated index
  | some digits =>
    obtain ⟨first, rest, mark, start⟩ := mark_indexed (legible.index digits index)
    simp only [mark, List.cons_append, List.cons_prefix_cons]
    rintro ⟨rfl, _⟩
    exact absurd start (by decide)

/-- The function is found on its line. -/
theorem symbol_heading : Backtrace.symbol symbol.heading = symbol.function.toList := by
  unfold heading mark
  cases index : symbol.index with
  | none =>
    have unindexed := mt (startsIndexed_iff symbol.function.toList).mpr (legible.unindexed index)
    simp only [Backtrace.symbol, List.nil_append, after?_eq_none unindexed]
  | some digits =>
    have dropped :
        (digits.toList ++ ([':', ' '] ++ symbol.function.toList)).dropWhile Char.isDigit =
          [':', ' '] ++ symbol.function.toList :=
      Text.dropWhile_exact (legible.index digits index) (by simp)
    simp only [Backtrace.symbol, List.append_assoc, dropped, after?_append]

/-- The lines of a symbol are read as its frame. -/
theorem foldl_rows (frames : List Frame) :
    symbol.rows.foldl readLine frames = symbol.frame :: frames := by
  have opened : readLine frames symbol.heading = ⟨symbol.function, none, none⟩ :: frames := by
    rw [readLine_opening (bare_heading legible) frames (unlocated_heading legible),
      symbol_heading legible, String.ofList_toList]
  unfold rows frame
  cases located : symbol.location with
  | none => exact opened
  | some location =>
    have step := Location.readLine_row (legible.location location located)
      ⟨symbol.function, none, none⟩ frames
    simpa [opened] using step

/-- The lines of a symbol are bare. -/
theorem bare_rows : ∀ row ∈ symbol.rows, Bare row := by
  intro row member
  rcases List.mem_cons.mp member with rfl | located
  · exact bare_heading legible
  · obtain ⟨location, known, rfl⟩ := Option.map_eq_some_iff.mp (Option.mem_toList.mp located)
    exact Location.bare_row (legible.location location known)

end Legible

end Symbol

/-- The lines of symbols are read as their frames. -/
theorem foldl_symbols {symbols : List Symbol} (legible : ∀ symbol ∈ symbols, symbol.Legible)
    (frames : List Frame) :
    (symbols.flatMap Symbol.rows).foldl readLine frames =
      (symbols.map Symbol.frame).reverse ++ frames := by
  induction symbols generalizing frames with
  | nil => rfl
  | cons symbol rest inductionHypothesis =>
    obtain ⟨first, later⟩ := List.forall_mem_cons.mp legible
    rw [List.flatMap_cons, List.foldl_append, Symbol.foldl_rows first, inductionHypothesis later]
    simp

/-- A printed backtrace is read back: each symbol gives one frame, in order, with its function,
its file and its line, whatever the white space around the lines. -/
theorem frames_printed (symbols : List Symbol) (printed : String)
    (legible : ∀ symbol ∈ symbols, symbol.Legible)
    (lines : Printed (symbols.flatMap Symbol.rows) printed.toList) :
    frames printed = symbols.map Symbol.frame := by
  have bare : ∀ row ∈ symbols.flatMap Symbol.rows, Bare row := by
    intro row member
    obtain ⟨symbol, listed, inside⟩ := List.mem_flatMap.mp member
    exact Symbol.bare_rows (legible symbol listed) row inside
  rw [frames, foldl_printed lines bare, foldl_symbols legible, List.append_nil,
    List.reverse_reverse]

/-- Three symbols: a function that looks like a location and like an index, a file that ends in
a number, and an inlined function. -/
def lookalikes : List Symbol :=
  [⟨some "0", "at exit: 3: run", none⟩,
    ⟨some "12", "app::dial", some ⟨"C:\\src: a.rs:7", 10, some 5⟩⟩,
    ⟨none, "app::\x7b\x7bclosure\x7d\x7d", some ⟨"lib.rs", 12, none⟩⟩]

/-- The three symbols as they are printed, with a blank line after the first of them. -/
def lookalikeTrace : String :=
  "   0: at exit: 3: run\r\n\t\n  12: app::dial\n\tat C:\\src: a.rs:7:10:5\r\n" ++
    "      app::\x7b\x7bclosure\x7d\x7d\n         at lib.rs:12\n"

/-- All three symbols come back. -/
theorem frames_printed_lookalikes :
    (∀ symbol ∈ lookalikes, symbol.Legible) ∧
      Printed (lookalikes.flatMap Symbol.rows) lookalikeTrace.toList ∧
      frames lookalikeTrace =
        [⟨"at exit: 3: run", none, none⟩, ⟨"app::dial", some "C:\\src: a.rs:7", some 10⟩,
          ⟨"app::\x7b\x7bclosure\x7d\x7d", some "lib.rs", some 12⟩] := by
  have dialed : Location.Legible ⟨"C:\\src: a.rs:7", 10, some 5⟩ :=
    ⟨by decide, by decide, by decide, by decide⟩
  have closed : Location.Legible ⟨"lib.rs", 12, none⟩ :=
    ⟨by decide, by decide, by decide, by decide⟩
  have legible : ∀ symbol ∈ lookalikes, symbol.Legible := by
    simp only [lookalikes, List.forall_mem_cons, List.not_mem_nil, false_implies, implies_true,
      and_true]
    exact ⟨⟨by decide, by decide, by decide, by simp, by decide, by decide, by simp⟩,
      ⟨by decide, by decide, by decide, by simp, by decide, by decide, by simpa using dialed⟩,
      ⟨by decide, by decide, by decide, by simp, by decide, by decide, by simpa using closed⟩⟩
  have printed : ∃ text, Printed (lookalikes.flatMap Symbol.rows) text ∧
      text = lookalikeTrace.toList := by
    refine ⟨_, .row _ .returnAndFeed (by decide : IsSpace "   ".toList)
      (.blank .feed (by decide : IsSpace "\t".toList)
        (.row _ .feed (by decide : IsSpace "  ".toList)
          (.row _ .returnAndFeed (by decide : IsSpace "\t".toList)
            (.row _ .feed (by decide : IsSpace "      ".toList)
              (.row _ .feed (by decide : IsSpace "         ".toList) .done))))), ?_⟩
    decide
  obtain ⟨_, printed, rfl⟩ := printed
  exact ⟨legible, printed, frames_printed lookalikes _ legible printed⟩

end Backtrace

end CauseTree
