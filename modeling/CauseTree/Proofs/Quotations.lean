import CauseTree.Text.Quoted
import Mathlib.Tactic.Common

/-!
# Quoted texts are read in one way

What is written for a character tells where it ends. A character that stands for itself is
no backslash, a short escape is a backslash and one letter, and a code point ends at its
closing brace, which is no digit. So the texts behind two equal writings start with the
same character and go on alike.

A quote is written only behind a backslash. The first quote that is read as a character of
its own therefore closes a quoted text, and a quoted text is known with what follows it,
whatever it holds: quotes, backslashes and braces included.
-/

namespace CauseTree.Text

/-- Lists that are cut at the first place of a value are cut into the same parts. -/
theorem append_cons_inj {α : Type} {mark : α} {before other after later : List α}
    (unmarked : mark ∉ before) (otherUnmarked : mark ∉ other)
    (same : before ++ mark :: after = other ++ mark :: later) :
    before = other ∧ after = later := by
  rcases List.append_eq_append_iff.mp same with ⟨between, longer, rest⟩ | ⟨between, longer, rest⟩
  · cases between with
    | nil => simpa [longer] using rest
    | cons first further =>
      -- the mark of one list would be among what stands before the mark of the other
      obtain ⟨rfl, _⟩ := List.cons.inj rest
      exact absurd (by simp [longer]) otherUnmarked
  · cases between with
    | nil => simpa [longer, eq_comm] using rest
    | cons first further =>
      obtain ⟨rfl, _⟩ := List.cons.inj rest
      exact absurd (by simp [longer]) unmarked

/-- A hexadecimal digit is written in one way. -/
theorem digitChar_inj {digit other : Nat} (small : digit < 16) (otherSmall : other < 16)
    (same : Nat.digitChar digit = Nat.digitChar other) : digit = other := by
  have distinct : ∀ digit < 16, ∀ other < 16,
      Nat.digitChar digit = Nat.digitChar other → digit = other := by decide
  exact distinct digit small other otherSmall same

/-- The last hexadecimal digit of a number of several digits. -/
theorem toDigits_large {number : Nat} (large : 16 ≤ number) :
    Nat.toDigits 16 number = Nat.toDigits 16 (number / 16) ++ [Nat.digitChar (number % 16)] := by
  rw [Nat.toDigits_eq_if (by decide), if_neg (Nat.not_lt.mpr large)]

/-- A number of one digit is no number of several digits. -/
theorem toDigits_small_ne {number other : Nat} (small : number < 16) (large : 16 ≤ other) :
    Nat.toDigits 16 number ≠ Nat.toDigits 16 other := by
  intro same
  rw [Nat.toDigits_of_lt_base small, toDigits_large large, List.singleton_eq_append_iff] at same
  simp [Nat.toDigits_ne_nil] at same

/-- A number is known by its hexadecimal digits. The induction takes off the last one. -/
theorem toDigits_inj {number other : Nat}
    (same : Nat.toDigits 16 number = Nat.toDigits 16 other) : number = other := by
  induction number using Nat.strongRecOn generalizing other with
  | ind number inductionHypothesis =>
    rcases Nat.lt_or_ge number 16 with small | large
    · rcases Nat.lt_or_ge other 16 with otherSmall | otherLarge
      · rw [Nat.toDigits_of_lt_base small, Nat.toDigits_of_lt_base otherSmall] at same
        exact digitChar_inj small otherSmall (List.cons.inj same).1
      · exact absurd same (toDigits_small_ne small otherLarge)
    · rcases Nat.lt_or_ge other 16 with otherSmall | otherLarge
      · exact absurd same.symm (toDigits_small_ne otherSmall large)
      · rw [toDigits_large large, toDigits_large otherLarge] at same
        obtain ⟨front, last⟩ := List.append_inj' same rfl
        have quotients : number / 16 = other / 16 :=
          inductionHypothesis (number / 16) (by omega) front
        have remainders : number % 16 = other % 16 :=
          digitChar_inj (Nat.mod_lt _ (by decide)) (Nat.mod_lt _ (by decide)) (List.cons.inj last).1
        omega

/-- No hexadecimal digit is a closing brace. -/
theorem brace_not_mem_toDigits (number : Nat) : '\x7d' ∉ Nat.toDigits 16 number := by
  have digit : ∀ digit < 16, '\x7d' ≠ Nat.digitChar digit := by decide
  induction number using Nat.strongRecOn with
  | ind number inductionHypothesis =>
    rcases Nat.lt_or_ge number 16 with small | large
    · rw [Nat.toDigits_of_lt_base small, List.mem_singleton]
      exact digit number small
    · rw [toDigits_large large, List.mem_append, List.mem_singleton]
      rintro (front | last)
      · exact inductionHypothesis (number / 16) (by omega) front
      · exact digit (number % 16) (Nat.mod_lt _ (by decide)) last

/-- The character that a letter after a backslash stands for. The letter of code points
stands for none. -/
def meant? : Char → Option Char
  | '"' => some '"'
  | '\\' => some '\\'
  | 't' => some '\t'
  | 'n' => some '\n'
  | 'r' => some '\r'
  | '0' => some '\x00'
  | _ => none

/-- The three ways in which a character is written between quotes. -/
inductive Written (c : Char) : List Char → Prop where
  | itself (notQuote : c ≠ '"') (notBackslash : c ≠ '\\') : Written c [c]
  | short {letter : Char} (meant : meant? letter = some c) : Written c ['\\', letter]
  | code : Written c (codePointEscape c)

/-- A character is written in one of the three ways. -/
theorem written_escapeChar (c : Char) : Written c (escapeChar c) := by
  unfold escapeChar
  split
  · next same => exact .short (by simp [meant?, same])
  split
  · next same => exact .short (by simp [meant?, same])
  split
  · next same => exact .short (by simp [meant?, same])
  split
  · next same => exact .short (by simp [meant?, same])
  split
  · next same => exact .short (by simp [meant?, same])
  split
  · next same => exact .short (by simp [meant?, same])
  split
  · next notQuote notBackslash _ _ _ _ _ => exact .itself notQuote notBackslash
  · exact .code

namespace Written

variable {c d : Char} {writing other rest later : List Char}

/-- No character is written with a quote in front. -/
theorem ne_quote (written : Written c writing) : writing ++ rest ≠ '"' :: later := by
  cases written with
  | itself notQuote notBackslash => simp [notQuote]
  | short meant => simp
  | code => simp [codePointEscape]

/-- A short escape is no code point. -/
theorem short_ne_code {letter : Char} (meant : meant? letter = some c) :
    ['\\', letter] ++ rest ≠ codePointEscape d ++ later := by
  intro same
  obtain rfl : letter = 'u' := by
    simp only [codePointEscape, List.cons_append, List.cons.injEq] at same
    exact same.2.1
  simp [meant?] at meant

/-- Code points that are written alike belong to one character. -/
theorem code_inj (same : codePointEscape c ++ rest = codePointEscape d ++ later) :
    c = d ∧ rest = later := by
  have digits : Nat.toDigits 16 c.toNat ++ '\x7d' :: rest =
      Nat.toDigits 16 d.toNat ++ '\x7d' :: later := by
    simpa [codePointEscape] using same
  obtain ⟨number, after⟩ :=
    append_cons_inj (brace_not_mem_toDigits _) (brace_not_mem_toDigits _) digits
  exact ⟨Char.toNat_inj.mp (toDigits_inj number), after⟩

/-- Writings that start alike start with the same character and go on alike. -/
theorem append_inj (written : Written c writing) (otherWritten : Written d other)
    (same : writing ++ rest = other ++ later) : c = d ∧ rest = later := by
  cases written with
  | itself notQuote notBackslash =>
    -- only an escape starts with a backslash
    cases otherWritten with
    | itself _ _ => simpa using same
    | short meant => exact absurd (List.cons.inj same).1 notBackslash
    | code => exact absurd (List.cons.inj same).1 notBackslash
  | @short letter meant =>
    cases otherWritten with
    | itself _ notBackslash => exact absurd (List.cons.inj same).1.symm notBackslash
    | @short otherLetter otherMeant =>
      obtain ⟨rfl, rfl⟩ : letter = otherLetter ∧ rest = later := by simpa using same
      exact ⟨Option.some.inj (meant.symm.trans otherMeant), rfl⟩
    | code => exact absurd same (short_ne_code meant)
  | code =>
    cases otherWritten with
    | itself _ notBackslash => exact absurd (List.cons.inj same).1.symm notBackslash
    | short meant => exact absurd same.symm (short_ne_code meant)
    | code => exact code_inj same

end Written

/-- Escaped texts that are closed by a quote are the same text. -/
theorem escape_quote_inj {text other rest later : List Char}
    (same : escape text ++ '"' :: rest = escape other ++ '"' :: later) :
    text = other ∧ rest = later := by
  induction text generalizing other with
  | nil =>
    cases other with
    | nil => simpa [escape] using same
    | cons d further =>
      simp only [escape, List.flatMap_nil, List.nil_append, List.flatMap_cons,
        List.append_assoc] at same
      exact absurd same.symm (written_escapeChar d).ne_quote
  | cons c after inductionHypothesis =>
    cases other with
    | nil =>
      simp only [escape, List.flatMap_nil, List.nil_append, List.flatMap_cons,
        List.append_assoc] at same
      exact absurd same (written_escapeChar c).ne_quote
    | cons d further =>
      simp only [escape, List.flatMap_cons, List.append_assoc] at same
      obtain ⟨rfl, go⟩ := (written_escapeChar c).append_inj (written_escapeChar d) same
      obtain ⟨rfl, rfl⟩ := inductionHypothesis go
      exact ⟨rfl, rfl⟩

/-- A quoted text is known with what follows it. -/
theorem quoted_append_inj {text other rest later : String}
    (same : quoted text ++ rest = quoted other ++ later) : text = other ∧ rest = later := by
  have lists : escape text.toList ++ '"' :: rest.toList =
      escape other.toList ++ '"' :: later.toList := by
    simpa [quoted] using congrArg String.toList same
  obtain ⟨texts, rests⟩ := escape_quote_inj lists
  exact ⟨String.toList_injective texts, String.toList_injective rests⟩

end CauseTree.Text
