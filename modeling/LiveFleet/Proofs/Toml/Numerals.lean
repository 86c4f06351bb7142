/-
This file holds the plain way to write an integer, which is its decimal digits
and nothing else. A word of a document can mean many things besides: a number in
another base, a number with a sign, with underscores, with a fraction or an
exponent, a truth value, a date or a time of day. Digits alone are none of
these, so they are read as the number that they were written for, as long as a
document can hold it.
-/
import Mathlib
import LiveFleet.Toml.Document

namespace LiveFleet.Toml

/-- Characters are told apart by any property that only one of them has. -/
theorem ne_of_property {property : Char → Bool} {one other : Char} (has : property one)
    (has_not : property other = false) : one ≠ other := fun same => by
  rw [same, has_not] at has
  contradiction

/-- The decimal digits of a number, without a needless zero in front. -/
def numeral (number : Nat) : List Char := Nat.toDigits 10 number

theorem isDigit_of_mem_numeral {number : Nat} {character : Char}
    (member : character ∈ numeral number) : character.isDigit :=
  Nat.isDigit_of_mem_toDigits (by decide) (by decide) member

/-- A numeral begins with a digit, and that digit is no zero unless it is all there is. -/
theorem numeral_eq_cons (number : Nat) :
    ∃ first rest, numeral number = first :: rest ∧ first.isDigit ∧ (first = '0' → rest = []) := by
  induction number using Nat.strong_induction_on with
  | _ number shorter =>
    by_cases small : number < 10
    · refine ⟨number.digitChar, [], Nat.toDigits_of_lt_base small, ?_, fun _ => rfl⟩
      exact isDigit_of_mem_numeral (by rw [numeral, Nat.toDigits_of_lt_base small]; simp)
    · obtain ⟨first, rest, same, digit, alone⟩ := shorter (number / 10) (by omega)
      have split : numeral number = first :: (rest ++ [(number % 10).digitChar]) := by
        rw [numeral, Nat.toDigits_eq_if (by decide), if_neg small, ← numeral, same,
          List.cons_append]
      refine ⟨first, _, split, digit, fun zero => ?_⟩
      -- A zero in front would be all of `number / 10`, which is not zero.
      have value : Nat.ofDigitChars 10 (numeral (number / 10)) 0 = 0 := by
        rw [same, alone zero, zero]; rfl
      rw [numeral, Nat.ofDigitChars_ten_toDigits] at value
      omega

/-! ### Digits that are read -/

theorem plainDigits?_of_isDigit {isDigit : Char → Bool} {digits : List Char}
    (some_digit : digits ≠ []) (all : ∀ digit ∈ digits, isDigit digit)
    (underscore : isDigit '_' = false) : plainDigits? isDigit digits = some digits := by
  induction digits with
  | nil => exact absurd rfl some_digit
  | cons first rest later =>
    have first_digit := all first List.mem_cons_self
    cases rest with
    | nil => simp [plainDigits?, first_digit]
    | cons second rest =>
      have second_plain : second ≠ '_' := ne_of_property (all second (by simp)) underscore
      have remaining := later (List.cons_ne_nil _ _) fun digit member =>
        all digit (List.mem_cons_of_mem _ member)
      rw [plainDigits?, if_pos first_digit, remaining, Option.map_some]
      · exact List.cons_ne_nil _ _
      · exact fun _ same => second_plain (List.cons.inj same).1

theorem hexDigit?_of_isDigit {character : Char} (digit : character.isDigit) :
    hexDigit? character = some (character.toNat - '0'.toNat) := by
  have bounds : '0' ≤ character ∧ character ≤ '9' := by
    simpa [Char.isDigit, Char.le_def] using digit
  simp only [hexDigit?, bounds, decide_true, Bool.and_self, if_true]

theorem digitsValue_eq_ofDigitChars {digits : List Char} (all : ∀ digit ∈ digits, digit.isDigit) :
    digitsValue 10 digits = Nat.ofDigitChars 10 digits 0 := by
  rw [digitsValue, Nat.ofDigitChars_eq_foldl]
  refine List.foldl_ext _ _ _ fun sofar digit member => ?_
  rw [hexDigit?_of_isDigit (all digit member), Option.getD_some]

theorem decimal?_numeral (number : Nat) : decimal? (numeral number) = some number := by
  obtain ⟨first, rest, same, -, alone⟩ := numeral_eq_cons number
  have plain : plainDigits? Char.isDigit (numeral number) = some (numeral number) :=
    plainDigits?_of_isDigit (by simp [same]) (fun _ => isDigit_of_mem_numeral) (by decide)
  have front : ¬ ((numeral number).length ≠ 1 && (numeral number).head? = some '0') := by
    by_cases zero : first = '0'
    · simp [same, alone zero]
    · simp [same, zero]
  have value : digitsValue 10 (numeral number) = number := by
    rw [digitsValue_eq_ofDigitChars fun _ member => isDigit_of_mem_numeral member, numeral,
      Nat.ofDigitChars_ten_toDigits]
  simp only [decimal?, plain, Option.bind_eq_bind, Option.bind_some, value]
  rw [if_neg front]

/-! ### Words that are nothing but digits -/

section Words
variable {word : List Char}

theorem signed_of_isDigit (all : ∀ digit ∈ word, digit.isDigit) : signed word = (1, word) := by
  unfold signed
  split
  · exact absurd rfl (ne_of_property (all '-' (by simp)) (by decide))
  · exact absurd rfl (ne_of_property (all '+' (by simp)) (by decide))
  · rfl

theorem wholeNumber?_of_isDigit {number : Nat} (all : ∀ digit ∈ word, digit.isDigit)
    (decimal : decimal? word = some number) : wholeNumber? word = some (number : Int) := by
  unfold wholeNumber?
  split
  · exact absurd rfl (ne_of_property (all 'x' (by simp)) (by decide))
  · exact absurd rfl (ne_of_property (all 'o' (by simp)) (by decide))
  · exact absurd rfl (ne_of_property (all 'b' (by simp)) (by decide))
  · simp [signed_of_isDigit all, decimal]

theorem date?_of_isDigit (all : ∀ digit ∈ word, digit.isDigit) : date? word = none := by
  unfold date?
  split
  · exact absurd rfl (ne_of_property (all '-' (by simp)) (by decide))
  · rfl

end Words

theorem integer?_numeral {number : Nat} (held : number ≤ largestInteger) :
    integer? (numeral number) = some (number : Int) := by
  have whole : wholeNumber? (numeral number) = some (number : Int) :=
    wholeNumber?_of_isDigit (fun _ => isDigit_of_mem_numeral) (decimal?_numeral number)
  have fits : -(largestInteger : Int) - 1 ≤ number ∧ (number : Int) ≤ largestInteger := by omega
  simp only [integer?, whole, Option.bind_eq_bind, Option.bind_some, fits, decide_true,
    Bool.and_self, if_true]

theorem word?_numeral {number : Nat} (held : number ≤ largestInteger) :
    word? (numeral number) = some (.integer number) := by
  obtain ⟨first, rest, same, digit, -⟩ := numeral_eq_cons number
  have letter {name : List Char} {initial : Char} {others : List Char}
      (named : name = initial :: others) (no : initial.isDigit = false) : numeral number ≠ name :=
    fun equal => ne_of_property digit no (List.cons.inj (same.symm.trans (equal.trans named))).1
  rw [word?, if_neg (letter (by rfl) (by decide)), if_neg (letter (by rfl) (by decide)),
    integer?_numeral held]

theorem isWord_of_isDigit {character : Char} (digit : character.isDigit) : isWord character := by
  simp [isWord, Char.isAlphanum, digit]

/-- A numeral before a character that cannot belong to a word is read as the number. -/
theorem scalar?_numeral {number : Nat} {mark : Char} {rest : List Char}
    (held : number ≤ largestInteger) (ends : isWord mark = false) :
    scalar? (numeral number ++ mark :: rest) = some (.integer number, mark :: rest) := by
  have words : ∀ character ∈ numeral number, isWord character :=
    fun _ member => isWord_of_isDigit (isDigit_of_mem_numeral member)
  have word : (numeral number ++ mark :: rest).takeWhile isWord = numeral number := by
    rw [List.takeWhile_append_of_pos words, List.takeWhile_cons_of_neg (by simp [ends]),
      List.append_nil]
  have behind : (numeral number ++ mark :: rest).dropWhile isWord = mark :: rest := by
    rw [List.dropWhile_append_of_pos words, List.dropWhile_cons_of_neg (by simp [ends])]
  have undated : date? (numeral number) = none :=
    date?_of_isDigit fun _ => isDigit_of_mem_numeral
  simp only [scalar?, word, behind, undated, word?_numeral held, Option.map_some]

end LiveFleet.Toml
