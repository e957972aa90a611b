/-
This file says which numeral a text holds: what is left of it without the white
space around it, and which number decimal digits write. Any number of zeros may
stand before the decimal text of a number, and there is no other way to write it.

The value of a numeral is a sum over all its digits, so no length makes it wrap
around. Reading digit by digit in a word of 64 bits, and giving up at the first
product or sum that does not fit, comes to the same: once a number is too large,
no further digit makes it smaller.
-/

import Mathlib
import Taskyard.Text.Blank
import Taskyard.Text.Numeral

namespace Taskyard.Text

/-! ### White space -/

/-- The white space characters, one by one. -/
def whiteSpace : List Char :=
  ['\t', '\n', '\x0b', '\x0c', '\r', ' ', '\u0085', '\u00a0', '\u1680', '\u2000', '\u2001',
    '\u2002', '\u2003', '\u2004', '\u2005', '\u2006', '\u2007', '\u2008', '\u2009', '\u200a',
    '\u2028', '\u2029', '\u202f', '\u205f', '\u3000']

theorem isBlank_iff {char : Char} : isBlank char = true ↔ char ∈ whiteSpace := by
  simp only [whiteSpace, List.mem_cons, List.not_mem_nil, ← Char.toNat_inj, or_false,
    Char.reduceToNat, isBlank, Bool.or_eq_true, Bool.and_eq_true, decide_eq_true_eq, beq_iff_eq]
  omega

theorem takeWhile_subset (text : List Char) : text.takeWhile isBlank ⊆ whiteSpace :=
  fun _ member => isBlank_iff.mp (List.mem_takeWhile_imp member)

/-- What is left of a text without the white space around it. -/
structure IsCore (text core : List Char) : Prop where
  within : ∃ before after, text = before ++ core ++ after ∧ before ⊆ whiteSpace ∧ after ⊆ whiteSpace
  head : ∀ char ∈ core.head?, char ∉ whiteSpace
  last : ∀ char ∈ core.getLast?, char ∉ whiteSpace

/-- White space before a text that does not begin with any is dropped, and nothing else. -/
theorem dropWhile_blank {before rest : List Char} (blank : before ⊆ whiteSpace)
    (head : ∀ char ∈ rest.head?, char ∉ whiteSpace) :
    (before ++ rest).dropWhile isBlank = rest := by
  rw [List.dropWhile_append_of_pos fun char member => isBlank_iff.mpr (blank member)]
  cases rest with
  | nil => rfl
  | cons first rest =>
    have kept : ¬isBlank first = true := fun isBlank => head first rfl (isBlank_iff.mp isBlank)
    rw [List.dropWhile_cons_of_neg kept]

theorem head_dropWhile (text : List Char) :
    ∀ char ∈ (text.dropWhile isBlank).head?, char ∉ whiteSpace := by
  intro char first member
  have stopped := List.head?_dropWhile_not isBlank text
  rw [Option.mem_def.mp first] at stopped
  simp [isBlank_iff.mpr member] at stopped

theorem isCore_trimBlank (text : List Char) : IsCore text (trimBlank text) := by
  let kept := text.dropWhile isBlank
  let after := (kept.reverse.takeWhile isBlank).reverse
  have parted : trimBlank text ++ after = kept := by
    rw [trimBlank, ← List.reverse_append, List.takeWhile_append_dropWhile, List.reverse_reverse]
  refine ⟨⟨text.takeWhile isBlank, after, ?_, takeWhile_subset text,
    List.reverse_subset.mpr (takeWhile_subset kept.reverse)⟩, ?_, ?_⟩
  · rw [List.append_assoc, parted, List.takeWhile_append_dropWhile]
  · intro char first
    refine head_dropWhile text char ?_
    show char ∈ kept.head?
    rw [← parted, List.head?_append, Option.mem_def.mp first]
    rfl
  · intro char final
    refine head_dropWhile kept.reverse char ?_
    rwa [trimBlank, List.getLast?_reverse] at final

theorem IsCore.trimBlank_eq {text core : List Char} (isCore : IsCore text core) :
    trimBlank text = core := by
  obtain ⟨before, after, rfl, blankBefore, blankAfter⟩ := isCore.within
  cases core with
  | nil =>
    have dropped := dropWhile_blank (List.append_subset.mpr ⟨blankBefore, blankAfter⟩) isCore.head
    rw [List.append_nil] at dropped
    rw [trimBlank, List.append_nil, dropped]
    rfl
  | cons first rest =>
    have head : ∀ char ∈ (first :: rest ++ after).head?, char ∉ whiteSpace := isCore.head
    have last : ∀ char ∈ (first :: rest).reverse.head?, char ∉ whiteSpace := by
      rw [List.head?_reverse]
      exact isCore.last
    rw [trimBlank, List.append_assoc, dropWhile_blank blankBefore head, List.reverse_append,
      dropWhile_blank (List.reverse_subset.mpr blankAfter) last, List.reverse_reverse]

/-- To trim a text is to find its core, and there is only one. -/
theorem trimBlank_eq_iff {text core : List Char} : trimBlank text = core ↔ IsCore text core :=
  ⟨fun same => same ▸ isCore_trimBlank text, IsCore.trimBlank_eq⟩

/-! ### What digits write -/

/-- The decimal digits. Each stands for its place among them. -/
def decimals : List Char := ['0', '1', '2', '3', '4', '5', '6', '7', '8', '9']

theorem mem_decimals_iff {char : Char} : char ∈ decimals ↔ char.isDigit = true := by
  simp only [decimals, List.mem_cons, List.not_mem_nil, ← Char.toNat_inj, or_false,
    Char.isDigit, Bool.and_eq_true, decide_eq_true_eq, ge_iff_le,
    UInt32.le_iff_toNat_le, Char.toNat, Char.reduceVal, UInt32.reduceToNat]
  omega

theorem digitValue?_of_mem {char : Char} (member : char ∈ decimals) :
    digitValue? char = some (decimals.idxOf char) := by
  fin_cases member <;> rfl

theorem idxOf_eq_sub {char : Char} (member : char ∈ decimals) :
    decimals.idxOf char = char.toNat - '0'.toNat := by
  fin_cases member <;> rfl

theorem idxOf_lt_of_mem {char : Char} (member : char ∈ decimals) : decimals.idxOf char < 10 :=
  List.idxOf_lt_length_of_mem member

theorem digitChar_idxOf {char : Char} (member : char ∈ decimals) :
    (decimals.idxOf char).digitChar = char := by
  fin_cases member <;> rfl

/-- What digits, at least one of them, write: every digit counts ten times as much as the next. -/
structure Writes (digits : List Char) (number : Nat) : Prop where
  nonempty : digits ≠ []
  decimal : digits ⊆ decimals
  sum : Nat.ofDigits 10 (digits.reverse.map decimals.idxOf) = number

theorem numeralValue_concat (base : Nat) (digits : List Char) (digit : Char) :
    numeralValue base (digits ++ [digit]) =
      numeralValue base digits * base + (digitValue? digit).getD 0 := by
  rw [numeralValue, List.foldl_append]
  rfl

theorem ofDigits_eq_numeralValue {digits : List Char} (decimal : digits ⊆ decimals) :
    Nat.ofDigits 10 (digits.reverse.map decimals.idxOf) = numeralValue 10 digits := by
  induction digits using List.reverseRecOn with
  | nil => rfl
  | append_singleton digits digit inductionHypothesis =>
    obtain ⟨earlier, last⟩ := List.append_subset.mp decimal
    have known := digitValue?_of_mem (last List.mem_cons_self)
    rw [List.reverse_append, List.reverse_singleton, List.singleton_append, List.map_cons,
      Nat.ofDigits_cons, inductionHypothesis earlier, numeralValue_concat, known, Option.getD_some]
    ring

theorem writes_iff_numeralValue {digits : List Char} {number : Nat} : Writes digits number ↔
    digits ≠ [] ∧ digits ⊆ decimals ∧ numeralValue 10 digits = number := by
  constructor
  · intro writes
    exact ⟨writes.nonempty, writes.decimal, ofDigits_eq_numeralValue writes.decimal ▸ writes.sum⟩
  · rintro ⟨nonempty, decimal, value⟩
    exact ⟨nonempty, decimal, (ofDigits_eq_numeralValue decimal).trans value⟩

theorem Writes.single {digit : Char} {number : Nat} (writes : Writes [digit] number) :
    [digit] = Nat.toDigits 10 number := by
  have member := writes.decimal List.mem_cons_self
  have value : decimals.idxOf digit = number := by simpa using writes.sum
  have small := idxOf_lt_of_mem member
  rw [← value, Nat.toDigits_of_lt_base small, digitChar_idxOf member]

/-- The last digit is the remainder by ten, and the others write the quotient. -/
theorem Writes.concat {digits : List Char} {digit : Char} {number : Nat} (more : digits ≠ [])
    (writes : Writes (digits ++ [digit]) number) :
    Writes digits (number / 10) ∧ (number % 10).digitChar = digit := by
  obtain ⟨earlier, last⟩ := List.append_subset.mp writes.decimal
  have member := last List.mem_cons_self
  have small := idxOf_lt_of_mem member
  have value : decimals.idxOf digit + 10 * Nat.ofDigits 10 (digits.reverse.map decimals.idxOf) =
      number := by
    simpa [Nat.ofDigits_cons] using writes.sum
  have quotient : Nat.ofDigits 10 (digits.reverse.map decimals.idxOf) = number / 10 := by omega
  have remainder : number % 10 = decimals.idxOf digit := by omega
  refine ⟨⟨more, earlier, quotient⟩, ?_⟩
  rw [remainder, digitChar_idxOf member]

theorem exists_zeros_of_writes {digits : List Char} {number : Nat} (writes : Writes digits number) :
    ∃ zeros, digits = List.replicate zeros '0' ++ Nat.toDigits 10 number := by
  induction digits using List.reverseRecOn generalizing number with
  | nil => exact (writes.nonempty rfl).elim
  | append_singleton digits digit inductionHypothesis =>
    by_cases first : digits = []
    · subst first
      exact ⟨0, writes.single⟩
    obtain ⟨earlier, rfl⟩ := writes.concat first
    obtain ⟨zeros, written⟩ := inductionHypothesis earlier
    by_cases large : 10 ≤ number
    · refine ⟨zeros, ?_⟩
      rw [written, Nat.toDigits_of_base_le (by decide) large, List.append_assoc]
    · -- All digits before the last are zeros, and so the text of their number is one more of them.
      have small : number < 10 := Nat.lt_of_not_le large
      refine ⟨zeros + 1, ?_⟩
      rw [written, Nat.div_eq_of_lt small, Nat.mod_eq_of_lt small, Nat.toDigits_zero,
        Nat.toDigits_of_lt_base small, List.replicate_succ']

theorem numeralValue_eq_ofDigitChars {digits : List Char}
    (decimal : digits ⊆ decimals) :
    numeralValue 10 digits = Nat.ofDigitChars 10 digits 0 := by
  rw [numeralValue, Nat.ofDigitChars_eq_foldl]
  refine List.foldl_ext _ _ _ fun value digit member => ?_
  rw [digitValue?, if_pos (mem_decimals_iff.mp (decimal member)), Option.getD_some,
    Nat.mul_comm]

theorem writes_zeros (zeros number : Nat) :
    Writes (List.replicate zeros '0' ++ Nat.toDigits 10 number) number := by
  have decimal : List.replicate zeros '0' ++ Nat.toDigits 10 number ⊆ decimals := by
    refine List.append_subset.mpr ⟨fun digit zero => ?_, fun digit proper => ?_⟩
    · rw [List.eq_of_mem_replicate zero]
      decide
    · exact mem_decimals_iff.mpr (Nat.isDigit_of_mem_toDigits (by decide) (by decide) proper)
  refine writes_iff_numeralValue.mpr ⟨?_, decimal, ?_⟩
  · exact List.append_ne_nil_of_right_ne_nil _ Nat.toDigits_ne_nil
  · rw [numeralValue_eq_ofDigitChars decimal, Nat.ofDigitChars_append,
      Nat.ofDigitChars_replicate_zero, Nat.mul_zero, Nat.ofDigitChars_ten_toDigits]

/-- A number is written by its decimal text, after any number of zeros, and by nothing else. -/
theorem writes_iff {digits : List Char} {number : Nat} : Writes digits number ↔
    ∃ zeros, digits = List.replicate zeros '0' ++ Nat.toDigits 10 number := by
  refine ⟨exists_zeros_of_writes, ?_⟩
  rintro ⟨zeros, rfl⟩
  exact writes_zeros zeros number

/-! ### Numerals in a text -/

/-- Whether a text is the decimal text of a number, after zeros and at most one plus, with white
space around all of it. -/
def IsSpelling (text : List Char) (number : Nat) : Prop :=
  ∃ before sign zeros after,
    text = before ++ (sign ++ (List.replicate zeros '0' ++ (toString number).toList)) ++ after ∧
      (sign = [] ∨ sign = ['+']) ∧ before ⊆ whiteSpace ∧ after ⊆ whiteSpace

theorem not_blank_of_mem_decimals {char : Char} (member : char ∈ decimals) :
    char ∉ whiteSpace := by
  fin_cases member <;> decide

theorem isCore_of_not_blank {before core after : List Char}
    (proper : ∀ char ∈ core, char ∉ whiteSpace) (blankBefore : before ⊆ whiteSpace)
    (blankAfter : after ⊆ whiteSpace) : IsCore (before ++ core ++ after) core where
  within := ⟨before, after, rfl, blankBefore, blankAfter⟩
  head char first := proper char (List.mem_of_head? first)
  last char final := proper char (List.mem_of_getLast? final)

/-- The core of a spelling is digits, after at most one plus, and there are no other spellings. -/
theorem isSpelling_iff {text : List Char} {number : Nat} : IsSpelling text number ↔
    ∃ digits, (IsCore text digits ∨ IsCore text ('+' :: digits)) ∧ Writes digits number := by
  rw [IsSpelling, Nat.toString_eq_repr, Nat.toList_repr]
  constructor
  · rintro ⟨before, sign, zeros, after, rfl, signed, blankBefore, blankAfter⟩
    have writes := writes_zeros zeros number
    have proper : ∀ char ∈ List.replicate zeros '0' ++ Nat.toDigits 10 number,
        char ∉ whiteSpace := fun char member =>
      not_blank_of_mem_decimals (writes.decimal member)
    refine ⟨_, ?_, writes⟩
    rcases signed with rfl | rfl
    · exact .inl (isCore_of_not_blank proper blankBefore blankAfter)
    · have plus : '+' ∉ whiteSpace := by decide
      exact .inr (isCore_of_not_blank (List.forall_mem_cons.mpr ⟨plus, proper⟩) blankBefore blankAfter)
  · rintro ⟨digits, isCore | isCore, writes⟩
    all_goals
      obtain ⟨before, after, rfl, blankBefore, blankAfter⟩ := isCore.within
      obtain ⟨zeros, rfl⟩ := writes_iff.mp writes
    · exact ⟨before, [], zeros, after, rfl, .inl rfl, blankBefore, blankAfter⟩
    · exact ⟨before, ['+'], zeros, after, rfl, .inr rfl, blankBefore, blankAfter⟩

/-! ### Digit by digit -/

/-- The word that is a number, unless it takes more than 64 bits. -/
def asWord? (number : Nat) : Option UInt64 :=
  if number < wordBound then some (.ofNat number) else none

/-- A word with one more digit at its end, unless that is no digit, or the product or the sum that
it takes does not fit. -/
def pushDigit? (word : UInt64) (digit : Char) : Option UInt64 :=
  if digit ∈ decimals then do
    let raised ← asWord? (word.toNat * 10)
    asWord? (raised.toNat + decimals.idxOf digit)
  else none

theorem asWord?_eq_some_iff {number : Nat} {word : UInt64} :
    asWord? number = some word ↔ word.toNat = number := by
  rw [asWord?, Option.ite_none_right_eq_some, Option.some_inj, ← UInt64.toNat_inj,
    UInt64.toNat_ofNat']
  constructor
  · rintro ⟨fits, same⟩
    exact same.symm.trans (Nat.mod_eq_of_lt fits)
  · rintro rfl
    exact ⟨word.toNat_lt, Nat.mod_eq_of_lt word.toNat_lt⟩

theorem exists_word {number : Nat} (fits : number < 2 ^ 64) :
    ∃ word : UInt64, word.toNat = number :=
  ⟨.ofNat number, UInt64.toNat_ofNat_of_lt' fits⟩

theorem pushDigit?_eq_some_iff {word next : UInt64} {digit : Char} :
    pushDigit? word digit = some next ↔
      digit ∈ decimals ∧ next.toNat = word.toNat * 10 + decimals.idxOf digit := by
  rw [pushDigit?, Option.ite_none_right_eq_some]
  refine and_congr_right fun _ => ?_
  simp only [bind, Option.bind_eq_some_iff, asWord?_eq_some_iff]
  constructor
  · rintro ⟨raised, product, sum⟩
    rw [sum, product]
  · intro value
    have bound := next.toNat_lt
    obtain ⟨raised, product⟩ := exists_word (show word.toNat * 10 < 2 ^ 64 by omega)
    exact ⟨raised, product, product ▸ value⟩

theorem le_ofDigitChars (digits : List Char) (start : Nat) :
    start ≤ Nat.ofDigitChars 10 digits start := by
  have longer : 1 ≤ 10 ^ digits.length := Nat.one_le_pow _ _ (by decide)
  calc
    start ≤ 10 ^ digits.length * start := Nat.le_mul_of_pos_left start longer
    _ ≤ Nat.ofDigitChars 10 digits start := by
      rw [Nat.ofDigitChars_eq_ofDigitChars_zero]
      exact Nat.le_add_right _ _

/-- Further digits make no number smaller, so the word that the last digit leaves can be reached if
the number fits: it was never larger before. -/
theorem foldlM_pushDigit?_eq_some_iff {digits : List Char} {word last : UInt64} :
    digits.foldlM pushDigit? word = some last ↔
      digits ⊆ decimals ∧ last.toNat = Nat.ofDigitChars 10 digits word.toNat := by
  induction digits generalizing word with
  | nil => simp [eq_comm, ← UInt64.toNat_inj]
  | cons digit digits inductionHypothesis =>
    simp only [List.foldlM_cons, bind, Option.bind_eq_some_iff, pushDigit?_eq_some_iff,
      inductionHypothesis, List.cons_subset, Nat.ofDigitChars_cons]
    constructor
    · rintro ⟨next, ⟨member, pushed⟩, decimal, value⟩
      rw [pushed, idxOf_eq_sub member, Nat.mul_comm] at value
      exact ⟨⟨member, decimal⟩, value⟩
    · rintro ⟨⟨member, decimal⟩, value⟩
      rw [← idxOf_eq_sub member, Nat.mul_comm] at value
      have fits : word.toNat * 10 + decimals.idxOf digit < 2 ^ 64 :=
        ((le_ofDigitChars digits _).trans_eq value.symm).trans_lt last.toNat_lt
      obtain ⟨next, pushed⟩ := exists_word fits
      exact ⟨next, ⟨member, pushed⟩, decimal, pushed ▸ value⟩

end Taskyard.Text
