import ColorMarkup.Scan

/-!
The index that the digits of a directive denote. Leading zeros do not count, and an index that is
refused for its length lies beyond every list of colors.
-/

namespace ColorMarkup

/-- The most elements that a list of colors can have. -/
def longestList : Nat := Nat.pow 2 63 - 1

theorem plainValue_cons (digit : Char) (rest : List Char) :
    Text.plainValue (digit :: rest)
      = (digit.toNat - '0'.toNat) * Nat.pow 10 rest.length + Text.plainValue rest := by
  have split := Text.ofDigits_append [digit.toNat - '0'.toNat]
    (rest.map fun digit => digit.toNat - '0'.toNat)
  simpa [Text.plainValue, Text.ofDigits] using split

theorem plainValue_dropWhile_zero (digits : List Char) :
    Text.plainValue (digits.dropWhile (· == '0')) = Text.plainValue digits := by
  induction digits with
  | nil => rfl
  | cons digit rest ih =>
    by_cases zero : digit = '0'
    · subst digit
      rw [List.dropWhile_cons_of_pos (by simp), ih, plainValue_cons]
      simp
    · rw [List.dropWhile_cons_of_neg (by simpa using zero)]

theorem plainValue_significant (digits : List Char) :
    Text.plainValue (significant digits) = Text.plainValue digits := by
  rw [← plainValue_dropWhile_zero digits]
  unfold significant
  split
  · rename_i empty
    rw [empty]
    rfl
  · rename_i same
    rw [same]

theorem plainValue_zeros (zeros : Nat) (digits : List Char) :
    Text.plainValue (List.replicate zeros '0' ++ digits) = Text.plainValue digits := by
  induction zeros with
  | zero => rfl
  | succ zeros ih =>
    rw [List.replicate_succ, List.cons_append, plainValue_cons, ih]
    simp

theorem isPlainDigit_of_mem_zeros {digits : List Char}
    (plain : ∀ digit ∈ digits, Text.isPlainDigit digit) (zeros : Nat) :
    ∀ digit ∈ List.replicate zeros '0' ++ digits, Text.isPlainDigit digit := by
  intro digit member
  rcases List.mem_append.mp member with zero | later
  · rw [(List.mem_replicate.mp zero).2]
    rfl
  · exact plain digit later

theorem plainValue_toString (number : Nat) : Text.plainValue (toString number).toList = number := by
  rw [Nat.toString_eq_repr, Nat.toList_repr, Text.plainValue, Text.ofDigits, List.foldl_map,
    ← Nat.ofDigitChars_eq_foldl]
  exact Nat.ofDigitChars_toDigits (by decide) (by decide)

theorem isPlainDigit_of_mem_toString {number : Nat} {digit : Char}
    (member : digit ∈ (toString number).toList) : Text.isPlainDigit digit := by
  rw [Nat.toString_eq_repr, Nat.toList_repr] at member
  have digits := Nat.isDigit_of_mem_toDigits (by decide) (by decide) member
  simp only [Char.isDigit, Bool.and_eq_true, decide_eq_true_eq] at digits
  simp only [Text.isPlainDigit, Bool.and_eq_true, decide_eq_true_eq]
  exact digits

theorem digit_positive {lead : Char} (plain : Text.isPlainDigit lead) (notZero : lead ≠ '0') :
    0 < lead.toNat - '0'.toNat := by
  have lower : '0'.toNat ≤ lead.toNat := by
    simp only [Text.isPlainDigit, Bool.and_eq_true, decide_eq_true_eq] at plain
    exact plain.1
  have different : lead.toNat ≠ '0'.toNat := by
    intro same
    exact notZero (Char.toNat_inj.mp same)
  omega

theorem ne_zero_of_dropWhile {digits rest : List Char} {lead : Char}
    (shown : digits.dropWhile (· == '0') = lead :: rest) : lead ≠ '0' := by
  have stopped := List.head_dropWhile_not (· == '0') (l := digits) (by simp [shown])
  simpa [shown] using stopped

theorem ten_pow_le_plainValue {lead : Char} (rest : List Char) (plain : Text.isPlainDigit lead)
    (notZero : lead ≠ '0') : Nat.pow 10 rest.length ≤ Text.plainValue (lead :: rest) := by
  have positive : 1 ≤ lead.toNat - '0'.toNat := digit_positive plain notZero
  have scaled := Nat.mul_le_mul_right (Nat.pow 10 rest.length) positive
  rw [plainValue_cons]
  omega

theorem digitChar_plain {digit : Char} (plain : Text.isPlainDigit digit) :
    digit.toNat - '0'.toNat < 10 ∧ Nat.digitChar (digit.toNat - '0'.toNat) = digit := by
  simp only [Text.isPlainDigit, Bool.and_eq_true, decide_eq_true_eq] at plain
  have lower : '0'.toNat ≤ digit.toNat := plain.1
  have upper : digit.toNat ≤ '9'.toNat := plain.2
  have zero : '0'.toNat = 48 := rfl
  have nine : '9'.toNat = 57 := rfl
  have small : digit.toNat - '0'.toNat < 10 := by omega
  refine ⟨small, Char.toNat_inj.mp ?_⟩
  rw [Nat.toNat_digitChar_of_lt_ten small]
  omega

theorem toDigits_append_plain {number : Nat} (positive : 0 < number) {digits : List Char}
    (plain : ∀ digit ∈ digits, Text.isPlainDigit digit) :
    Nat.toDigits 10 number ++ digits
      = Nat.toDigits 10 (number * Nat.pow 10 digits.length + Text.plainValue digits) := by
  induction digits generalizing number with
  | nil => simp [Text.plainValue, Text.ofDigits]
  | cons digit rest ih =>
    obtain ⟨first, others⟩ := List.forall_mem_cons.mp plain
    obtain ⟨small, same⟩ := digitChar_plain first
    have grown : 0 < 10 * number + (digit.toNat - '0'.toNat) := by omega
    have one : Nat.toDigits 10 number ++ [digit]
        = Nat.toDigits 10 (10 * number + (digit.toNat - '0'.toNat)) := by
      rw [← Nat.toDigits_append_toDigits (by decide) positive small,
        Nat.toDigits_of_lt_base small, same]
    have power : Nat.pow 10 (rest.length + 1) = 10 * Nat.pow 10 rest.length :=
      Nat.mul_comm (Nat.pow 10 rest.length) 10
    calc
      Nat.toDigits 10 number ++ digit :: rest
          = (Nat.toDigits 10 number ++ [digit]) ++ rest := by simp
      _ = Nat.toDigits 10 (10 * number + (digit.toNat - '0'.toNat)) ++ rest := by rw [one]
      _ = Nat.toDigits 10 ((10 * number + (digit.toNat - '0'.toNat)) * Nat.pow 10 rest.length
            + Text.plainValue rest) := ih grown others
      _ = _ := by
        rw [plainValue_cons, List.length_cons, power]
        congr 1
        rw [Nat.add_mul, Nat.mul_comm 10 number, Nat.mul_assoc, Nat.add_assoc]

theorem significant_eq_toString {digits : List Char}
    (plain : ∀ digit ∈ digits, Text.isPlainDigit digit) :
    significant digits = (toString (Text.plainValue digits)).toList := by
  rw [Nat.toString_eq_repr, Nat.toList_repr, ← plainValue_dropWhile_zero]
  have kept : ∀ digit ∈ digits.dropWhile (· == '0'), Text.isPlainDigit digit := fun digit member =>
    plain digit ((List.dropWhile_sublist (· == '0')).subset member)
  unfold significant
  split
  · rename_i empty
    rw [empty]
    rfl
  · rename_i lead rest shown
    rw [shown] at kept ⊢
    obtain ⟨first, others⟩ := List.forall_mem_cons.mp kept
    obtain ⟨small, same⟩ := digitChar_plain first
    have positive := digit_positive first (ne_zero_of_dropWhile shown)
    have whole := toDigits_append_plain positive others
    rw [Nat.toDigits_of_lt_base small, same] at whole
    rw [plainValue_cons]
    exact whole

theorem longestList_lt_plainValue {digits : List Char}
    (plain : ∀ digit ∈ digits, Text.isPlainDigit digit)
    (long : indexDigitLimit < (significant digits).length) :
    longestList < Text.plainValue digits := by
  rw [← plainValue_significant]
  unfold significant at long ⊢
  split at long
  · simp [indexDigitLimit] at long
  · rename_i lead rest shown
    have member : lead ∈ digits := by
      apply (List.dropWhile_sublist (· == '0')).subset
      simp [shown]
    have bound := ten_pow_le_plainValue rest (plain lead member) (ne_zero_of_dropWhile shown)
    have digitsLeft : indexDigitLimit ≤ rest.length := by
      simp only [List.length_cons] at long
      omega
    have power : Nat.pow 10 indexDigitLimit ≤ Nat.pow 10 rest.length :=
      Nat.pow_le_pow_right (by decide) digitsLeft
    have limit : longestList < Nat.pow 10 indexDigitLimit := by decide
    omega

theorem resolveIndex_eq_ok {colors : List Color} {index : Nat} {position : Int} {color : Color} :
    resolveIndex colors index position = .ok color ↔ colors[index]? = some color := by
  unfold resolveIndex
  cases found : colors[index]? with
  | some present => simp [found]
  | none => simp [found]

theorem resolveDigits_ok {colors : List Color} {digits : List Char} {position : Int}
    {index : Nat} {color : Color}
    (resolved : resolveDigits colors digits position = .ok (index, color)) :
    index = Text.plainValue digits ∧ colors[Text.plainValue digits]? = some color := by
  unfold resolveDigits at resolved
  simp only [plainValue_significant] at resolved
  split at resolved
  · contradiction
  · cases lookup : resolveIndex colors (Text.plainValue digits) position with
    | ok found =>
      simp only [lookup, Except.map, Except.ok.injEq, Prod.mk.injEq] at resolved
      obtain ⟨rfl, rfl⟩ := resolved
      exact ⟨rfl, resolveIndex_eq_ok.mp lookup⟩
    | error error =>
      simp [lookup, Except.map] at resolved

theorem resolveDigits_ok_iff {colors : List Color} {digits : List Char} {position : Int}
    (bounded : colors.length ≤ longestList) (plain : ∀ digit ∈ digits, Text.isPlainDigit digit) :
    (∃ pair, resolveDigits colors digits position = .ok pair)
      ↔ Text.plainValue digits < colors.length := by
  constructor
  · rintro ⟨⟨index, color⟩, resolved⟩
    exact (List.getElem?_eq_some_iff.mp (resolveDigits_ok resolved).2).1
  · intro inside
    have short : ¬indexDigitLimit < (significant digits).length := by
      intro long
      have beyond := longestList_lt_plainValue plain long
      omega
    have found := List.getElem?_eq_getElem inside
    refine ⟨(Text.plainValue digits, colors[Text.plainValue digits]), ?_⟩
    simp only [resolveDigits, if_neg short, plainValue_significant, resolveIndex_eq_ok.mpr found,
      Except.map]

theorem resolveDigits_error {colors : List Color} {digits : List Char} {position : Int}
    {error : FormatError} (refused : resolveDigits colors digits position = .error error) :
    error.position = position ∧ error.kind = .indexOutOfRange := by
  simp only [resolveDigits] at refused
  split at refused
  · injection refused with same
    rw [← same]
    exact ⟨rfl, rfl⟩
  · cases found : colors[Text.plainValue (significant digits)]? with
    | some color => simp [resolveIndex, found, Except.map] at refused
    | none =>
      simp only [resolveIndex, found, Except.map, Int.natCast_nonneg, if_true, Int.toNat_natCast,
        Except.error.injEq] at refused
      rw [← refused]
      exact ⟨rfl, rfl⟩

theorem resolveDigits_shift (colors : List Color) (digits : List Char) (position : Int) :
    resolveDigits colors digits position
      = (resolveDigits colors digits 0).mapError (FormatError.shift position) := by
  simp only [resolveDigits]
  split
  · refine congrArg Except.error ?_
    simp [FormatError.shift]
  · cases found : colors[Text.plainValue (significant digits)]? with
    | some color =>
      simp only [resolveIndex, found, Except.map, Int.natCast_nonneg, if_true, Int.toNat_natCast]
      rfl
    | none =>
      simp only [resolveIndex, found, Except.map, Int.natCast_nonneg, if_true, Int.toNat_natCast]
      refine congrArg Except.error ?_
      simp [FormatError.shift]

theorem resolveDigits_of_ok {colors : List Color} {digits : List Char} {resolution : Nat × Color}
    (resolved : resolveDigits colors digits 0 = .ok resolution) (position : Int) :
    resolveDigits colors digits position = .ok resolution := by
  rw [resolveDigits_shift, resolved]
  rfl

end ColorMarkup
