import Mathlib.Data.List.Induction
import ColorMarkup.Text.Digit

/-!
Numerals in the digits of all scripts. A text of digits denotes a number unless one of them is not
decimal or it is longer than what is converted.
-/

namespace ColorMarkup.Text

/-- A text of decimal digits, and the number that it is a numeral of. -/
inductive Denotes : List Char → Nat → Prop
  | digit {character : Char} {value : Nat} : decimalValue? character = some value →
      Denotes [character] value
  | more {text : List Char} {number value : Nat} {character : Char} : Denotes text number →
      decimalValue? character = some value → Denotes (text ++ [character]) (10 * number + value)

/-- A text of digits, taken apart in front of the first that is not decimal. -/
structure Leads (text digits rest : List Char) : Prop where
  whole : text = digits ++ rest
  decimal : ∀ character ∈ digits, isDecimal character = true
  digit : ∀ character ∈ rest, isDigit character = true
  stops : ∀ character ∈ rest.head?, isDecimal character = false

/-- Digits that are not converted, and why. -/
inductive Flawed (text : List Char) : NumeralFault → Prop
  | long {digits rest : List Char} : Leads text digits rest → numeralLimit < digits.length →
      Flawed text (.tooLong digits.length)
  | odd {digits rest : List Char} {other : Char} : Leads text digits (other :: rest) →
      digits.length ≤ numeralLimit → Flawed text (.notDecimal text)

variable {text digits rest : List Char}

theorem isDigit_of_isDecimal {character : Char} (decimal : isDecimal character = true) :
    isDigit character = true := by
  rw [isDigit, decimal, Bool.true_or]

theorem isDecimal_iff {character : Char} :
    isDecimal character = true ↔ ∃ value, decimalValue? character = some value :=
  Option.isSome_iff_exists

theorem digits_or_other (text : List Char) :
    (∀ character ∈ text, isDigit character = true)
      ∨ ∃ character ∈ text, isDigit character = false := by
  by_cases digit : ∀ character ∈ text, isDigit character = true
  · exact .inl digit
  · exact .inr (by simpa using digit)

theorem ofDigits_snoc (digits : List Nat) (digit : Nat) :
    ofDigits (digits ++ [digit]) = 10 * ofDigits digits + digit := by
  simp [ofDigits, List.foldl_append]

namespace Denotes

theorem values {number : Nat} (denotes : Denotes text number) :
    text ≠ [] ∧ ∃ values, text.mapM decimalValue? = some values ∧ number = ofDigits values := by
  induction denotes with
  | @digit character value found =>
    exact ⟨List.cons_ne_nil _ _, [value], by simp [found], by simp [ofDigits]⟩
  | @more text number value character _ found ih =>
    obtain ⟨_, values, earlier, rfl⟩ := ih
    refine ⟨List.append_ne_nil_of_right_ne_nil _ (List.cons_ne_nil _ _), values ++ [value], ?_, ?_⟩
    · simp [List.mapM_append, earlier, found]
    · exact (ofDigits_snoc values value).symm

theorem decimal {number : Nat} (denotes : Denotes text number) :
    ∀ character ∈ text, isDecimal character = true := by
  induction denotes with
  | digit found =>
    intro character member
    rw [List.mem_singleton.mp member]
    exact isDecimal_iff.mpr ⟨_, found⟩
  | more _ found ih =>
    intro character member
    rcases List.mem_append.mp member with earlier | last
    · exact ih character earlier
    · rw [List.mem_singleton.mp last]
      exact isDecimal_iff.mpr ⟨_, found⟩

end Denotes

theorem exists_denotes (filled : text ≠ [])
    (decimal : ∀ character ∈ text, isDecimal character = true) :
    ∃ number, Denotes text number := by
  induction text using List.reverseRecOn with
  | nil => contradiction
  | append_singleton text character ih =>
    obtain ⟨value, found⟩ := isDecimal_iff.mp (decimal character (by simp))
    by_cases single : text = []
    · subst single
      exact ⟨value, .digit found⟩
    · obtain ⟨number, earlier⟩ := ih single fun other member =>
        decimal other (List.mem_append_left _ member)
      exact ⟨_, .more earlier found⟩

theorem exists_leads (digit : ∀ character ∈ text, isDigit character = true) :
    ∃ digits rest, Leads text digits rest := by
  refine ⟨text.takeWhile isDecimal, text.dropWhile isDecimal, ?_, ?_, ?_, ?_⟩
  · exact List.takeWhile_append_dropWhile.symm
  · exact List.all_eq_true.mp List.all_takeWhile
  · exact fun character member =>
      digit character ((List.dropWhile_sublist isDecimal).subset member)
  · intro character first
    have stopped := List.head?_dropWhile_not isDecimal text
    rw [Option.mem_def.mp first] at stopped
    simpa using stopped

namespace Leads

theorem isDigit_of_mem (leads : Leads text digits rest) :
    ∀ character ∈ text, isDigit character = true := by
  intro character member
  rw [leads.whole] at member
  rcases List.mem_append.mp member with earlier | later
  · exact isDigit_of_isDecimal (leads.decimal character earlier)
  · exact leads.digit character later

theorem takeWhile (leads : Leads text digits rest) : text.takeWhile isDecimal = digits := by
  have stopped : rest.takeWhile isDecimal = [] := by
    cases rest with
    | nil => rfl
    | cons first rest =>
      rw [List.takeWhile_cons_of_neg]
      rw [leads.stops first rfl]
      exact Bool.false_ne_true
  rw [leads.whole, List.takeWhile_append_of_pos leads.decimal, stopped, List.append_nil]

theorem of_decimal (decimal : ∀ character ∈ text, isDecimal character = true) :
    Leads text text [] where
  whole := (List.append_nil text).symm
  decimal := decimal
  digit _ member := absurd member List.not_mem_nil
  stops _ first := by contradiction

end Leads

namespace Flawed

variable {fault : NumeralFault}

theorem exists_leads (flawed : Flawed text fault) :
    text ≠ [] ∧ ∃ digits rest, Leads text digits rest := by
  cases flawed with
  | @long digits rest leads long =>
    refine ⟨?_, digits, rest, leads⟩
    rintro rfl
    have nothing : digits = [] := (List.nil_eq_append_iff.mp leads.whole).1
    rw [nothing] at long
    contradiction
  | @odd digits rest other leads _ =>
    refine ⟨?_, digits, other :: rest, leads⟩
    rw [leads.whole]
    exact List.append_ne_nil_of_right_ne_nil _ (List.cons_ne_nil _ _)

end Flawed

theorem denotes_or_flawed (filled : text ≠ [])
    (digit : ∀ character ∈ text, isDigit character = true) :
    (∃ number, Denotes text number) ∨ ∃ fault, Flawed text fault := by
  obtain ⟨digits, rest, leads⟩ := exists_leads digit
  cases rest with
  | nil =>
    have whole : text = digits := leads.whole.trans (List.append_nil digits)
    subst whole
    exact .inl (exists_denotes filled leads.decimal)
  | cons other rest =>
    by_cases long : numeralLimit < digits.length
    · exact .inr ⟨_, .long leads long⟩
    · exact .inr ⟨_, .odd leads (Nat.not_lt.mp long)⟩

theorem numeral?_flawed {fault : NumeralFault} (flawed : Flawed text fault) :
    numeral? text = .error fault := by
  cases flawed with
  | long leads long =>
    rw [numeral?, leads.takeWhile]
    exact if_pos long
  | @odd digits rest other leads short =>
    have unread : decimalValue? other = none :=
      Option.not_isSome_iff_eq_none.mp (Bool.eq_false_iff.mp (leads.stops other rfl))
    have none : text.mapM decimalValue? = none := by
      rw [leads.whole]
      simp [List.mapM_append, unread]
    rw [numeral?, leads.takeWhile, none]
    exact if_neg (Nat.not_lt.mpr short)

theorem numeral?_denotes {number : Nat} (denotes : Denotes text number)
    (unflawed : ∀ fault, ¬Flawed text fault) : numeral? text = .ok number := by
  obtain ⟨_, values, read, rfl⟩ := denotes.values
  have leads := Leads.of_decimal denotes.decimal
  have short : ¬numeralLimit < text.length := fun long => unflawed _ (.long leads long)
  rw [numeral?, leads.takeWhile, read]
  exact if_neg short

end ColorMarkup.Text
