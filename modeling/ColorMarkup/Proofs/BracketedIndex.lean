import ColorMarkup.Proofs.Diagnosis

/-!
Indices in brackets, of any length. The color is the one that the number stands for, and only digits
of numbers that are short enough are converted.
-/

namespace ColorMarkup

def Converts (convert : List Char → Except Text.NumeralFault Nat) : Prop :=
  ∀ numeral, numeral ≠ [] → numeral.length ≤ 19 → (∀ digit ∈ numeral, Text.isPlainDigit digit) →
    convert numeral = .ok (Text.plainValue numeral)

def resolveWith (convert : List Char → Except Text.NumeralFault Nat) (colors : List Color)
    (digits : List Char) (position : Int) :
    Except Text.NumeralFault (Except FormatError (Nat × Color)) :=
  let shown := significant digits
  if indexDigitLimit < shown.length then
    .ok (.error { kind := .indexOutOfRange, position
                  detail := String.ofList (FormatError.shorten shown) })
  else
    (convert shown).map fun (index : Nat) =>
      (resolveIndex colors index position).map fun color => (index, color)

section

variable {digits : List Char}

theorem decimalValue?_plain {digit : Char} (plain : Text.isPlainDigit digit) :
    Text.decimalValue? digit = some (digit.toNat - '0'.toNat) := by
  simp only [Text.isPlainDigit, Bool.and_eq_true, decide_eq_true_eq] at plain
  have lower : 48 ≤ digit.toNat := plain.1
  have upper : digit.toNat ≤ 57 := plain.2
  have inside : (decide (0x30 ≤ digit.toNat) && decide (digit.toNat < 0x30 + 10)) = true := by
    simp only [Bool.and_eq_true, decide_eq_true_eq]
    omega
  have found : (Text.zeros.find? fun first =>
      decide (first ≤ digit.toNat) && decide (digit.toNat < first + 10)) = some 0x30 :=
    List.find?_cons_of_pos inside
  rw [Text.decimalValue?, found]
  rfl

theorem mapM_decimalValue? (plain : ∀ digit ∈ digits, Text.isPlainDigit digit) :
    digits.mapM Text.decimalValue? = some (digits.map fun digit => digit.toNat - '0'.toNat) := by
  induction digits with
  | nil => rfl
  | cons digit rest ih =>
    obtain ⟨first, others⟩ := List.forall_mem_cons.mp plain
    simp [List.mapM_cons, decimalValue?_plain first, ih others]

theorem converts_numeral? : Converts Text.numeral? := by
  intro numeral _ short plain
  have leading : (numeral.takeWhile Text.isDecimal).length ≤ 19 :=
    Nat.le_trans (List.takeWhile_sublist _).length_le short
  have fits : ¬Text.numeralLimit < (numeral.takeWhile Text.isDecimal).length := by
    simp only [Text.numeralLimit]
    omega
  simp only [Text.numeral?, if_neg fits, mapM_decimalValue? plain]
  rfl

theorem isPlainDigit_of_mem_significant (plain : ∀ digit ∈ digits, Text.isPlainDigit digit) :
    ∀ digit ∈ significant digits, Text.isPlainDigit digit := by
  intro digit member
  rw [significant_eq_toString plain] at member
  exact isPlainDigit_of_mem_toString member

theorem significant_ne_nil (digits : List Char) : significant digits ≠ [] := by
  unfold significant
  split <;> simp

theorem resolveWith_eq {convert : List Char → Except Text.NumeralFault Nat}
    (converts : Converts convert) (colors : List Color)
    (plain : ∀ digit ∈ digits, Text.isPlainDigit digit) (position : Int) :
    resolveWith convert colors digits position = .ok (resolveDigits colors digits position) := by
  simp only [resolveWith, resolveDigits]
  by_cases long : indexDigitLimit < (significant digits).length
  · rw [if_pos long, if_pos long]
  · have short : (significant digits).length ≤ 19 := Nat.not_lt.mp long
    have converted := converts (significant digits) (significant_ne_nil digits) short
      (isPlainDigit_of_mem_significant plain)
    rw [if_neg long, if_neg long, converted]
    rfl

theorem plain_of_mem_constructs {signs : Signs} {text : List Char} {construct : Construct}
    {slot : Slot} (member : construct ∈ (Reading.ofText signs text).constructs)
    (directive : construct.meaning signs = .directive slot digits) :
    ∀ digit ∈ digits, Text.isPlainDigit digit := by
  induction text using reading_induction signs with
  | nil => simp at member
  | more heads ih =>
    rw [Reading.ofText_of_heads heads] at member
    rcases List.mem_cons.mp member with rfl | later
    · exact heads.plain_digits directive
    · exact ih later
  | faulty faulty =>
    rw [Reading.ofText_of_faulty faulty] at member
    simp at member

end

theorem resolveDigits_ok_iff_resolveIndex {colors : List Color} {digits : List Char}
    {position : Int} {color : Color} (bounded : colors.length ≤ longestList)
    (plain : ∀ digit ∈ digits, Text.isPlainDigit digit) :
    resolveDigits colors digits position = .ok (Text.plainValue digits, color)
      ↔ resolveIndex colors (Text.plainValue digits) position = .ok color := by
  rw [resolveIndex_eq_ok]
  constructor
  · intro resolved
    exact (resolveDigits_ok resolved).2
  · intro found
    obtain ⟨inside, _⟩ := List.getElem?_eq_some_iff.mp found
    obtain ⟨⟨index, other⟩, resolved⟩ := (resolveDigits_ok_iff bounded plain).mpr inside
    obtain ⟨rfl, same⟩ := resolveDigits_ok resolved
    rw [resolved, Option.some.inj (same.symm.trans found)]

theorem Script.ofText_bracketed {signs : Signs} {colors : List Color} {slot : Slot}
    {digits rest : List Char} (bounded : colors.length ≤ longestList) (filled : digits ≠ [])
    (plain : ∀ digit ∈ digits, Text.isPlainDigit digit)
    (inside : Text.plainValue digits < colors.length) :
    ofText signs colors (signs.directiveSign slot :: signs.openBracket
        :: (digits ++ signs.closeBracket :: rest))
      = (ofText signs colors rest).preceded signs colors (.bracketed slot digits) := by
  have heads : Construct.Heads signs (.bracketed slot digits) _ rest := .bracketed filled plain
  apply ofText_of_heads heads
  rw [Construct.missing?_eq_none_iff bounded heads]
  simpa [Construct.Supplied, Construct.index?] using inside

/-- An index in brackets selects exactly the color of its number, whatever the length of its digits,
and if there is none the error says which number it is. No conversion of the digits ever fails. -/
theorem bracketed_index_exact (signs : Signs) (colors : List Color) (slot : Slot)
    (digits : List Char) (bounded : colors.length ≤ longestList) (filled : digits ≠ [])
    (plain : ∀ digit ∈ digits, Text.isPlainDigit digit) :
    let number := Text.plainValue digits
    (∀ text before rest,
      Splits signs text before (signs.directiveSign slot :: signs.openBracket
        :: (digits ++ signs.closeBracket :: rest)) →
      (∀ construct ∈ before, construct.Supplied colors) →
      let played := before.flatMap (Construct.events signs colors)
      let place := (before.flatMap (Construct.source signs)).length
      ∃ outcome following, (record signs colors text).result = .ok outcome
        ∧ (record signs colors rest).result = .ok following
        ∧ (∀ inside : number < colors.length,
            (record signs colors text).state.events
                = played ++ .recolor slot (some colors[number])
                  :: (record signs colors rest).state.events
              ∧ outcome.error
                = following.error.map (FormatError.shift (place + (digits.length + 3))))
        ∧ (colors.length ≤ number → (record signs colors text).state.events = played
            ∧ ∃ error, outcome.error = some error ∧ ReportsMissing place number error))
      ∧ (∀ position color, resolveDigits colors digits position = .ok (number, color)
          ↔ resolveIndex colors number position = .ok color)
      ∧ Converts Text.numeral?
      ∧ ∀ convert, Converts convert → ∀ text construct slot digits,
          construct ∈ (Reading.ofText signs text).constructs →
          construct.meaning signs = .directive slot digits → ∀ position,
            resolveWith convert colors digits position
              = .ok (resolveDigits colors digits position) := by
  intro number
  refine ⟨?_, ?_, converts_numeral?, ?_⟩
  · intro text before rest splits supplied played place
    obtain ⟨events, result⟩ := record_eq signs colors text
    obtain ⟨restEvents, restResult⟩ := record_eq signs colors rest
    obtain ⟨reached, stopped⟩ := Script.ofText_reached bounded splits supplied
    refine ⟨_, _, result, restResult, ?_, ?_⟩
    · intro inside
      rw [Script.ofText_bracketed bounded filled plain inside] at reached stopped
      constructor
      · rw [events, reached, restEvents]
        simp [Script.preceded, Construct.events, Construct.meaning,
          List.getElem?_eq_getElem inside, played, number]
      · simp [Script.outcome, stopped, Script.preceded, Function.comp_def, FormatError.shift_shift,
          Construct.width, place]
    · intro missing
      obtain ⟨error, reports⟩ := exists_reportsMissing place number
      obtain ⟨base, fails, shifted⟩ :=
        (Unrenderable.missingNumber filled plain missing reports).exists_failed bounded
      rw [fails] at reached stopped
      refine ⟨?_, error, ?_, reports⟩
      · rw [events, reached]
        simp [Script.failed, played]
      · rw [shifted]
        exact stopped
  · intro position color
    exact resolveDigits_ok_iff_resolveIndex bounded plain
  · intro convert converts text construct slot digits member directive position
    exact resolveWith_eq converts colors (plain_of_mem_constructs member directive) position

/-- Zeros in front of an index behind a lone sign, and twenty digits that count. -/
theorem bracketed_index_exact_padded :
    [Color.red, .blue].length ≤ longestList
      ∧ (record Signs.standard [.red, .blue]
          ['%', '%', '\x7b', '0', '0', '1', '\x7d', 'x']).state.events
        = [.write ['%'], .recolor .foreground (some .blue), .write ['x']]
      ∧ ∃ outcome error,
        (record Signs.standard [.red, .blue]
          ('&' :: '\x7b' :: (List.replicate 20 '9' ++ ['\x7d']))).result = .ok outcome
        ∧ outcome.error = some error ∧ ReportsMissing 0 99999999999999999999 error := by
  have bounded : [Color.red, .blue].length ≤ longestList := by decide
  refine ⟨bounded, ?_, ?_⟩
  · have plain : ∀ digit ∈ ['0', '0', '1'], Text.isPlainDigit digit := by simp [Text.isPlainDigit]
    obtain ⟨exact, _⟩ := bracketed_index_exact Signs.standard [.red, .blue] .foreground
      ['0', '0', '1'] bounded (by simp) plain
    have lone : Construct.Heads Signs.standard (.loneSign .foreground)
        ['%', '%', '\x7b', '0', '0', '1', '\x7d', 'x'] ['%', '\x7b', '0', '0', '1', '\x7d', 'x'] :=
      .loneSign (Signs.standard.not_introduces_directiveSign .foreground _)
    obtain ⟨_, _, _, _, selects, _⟩ := exact _ [.loneSign .foreground] ['x'] (.more lone .done)
      (by simp [Construct.Supplied, Construct.index?])
    have rest : (record Signs.standard [.red, .blue] ['x']).state.events = [.write ['x']] := by
      rw [(record_eq _ _ _).1]
      decide +kernel
    have inside : Text.plainValue ['0', '0', '1'] < [Color.red, .blue].length := by decide
    have played := (selects inside).1
    rw [rest] at played
    exact played
  · have plain : ∀ digit ∈ List.replicate 20 '9', Text.isPlainDigit digit := by
      intro digit member
      rw [(List.mem_replicate.mp member).2]
      rfl
    obtain ⟨exact, _⟩ := bracketed_index_exact Signs.standard [.red, .blue] .background
      (List.replicate 20 '9') bounded (by simp) plain
    obtain ⟨outcome, _, ended, _, _, refuses⟩ := exact _ [] [] .done (by simp)
    obtain ⟨_, error, stopped, reports⟩ := refuses (by decide +kernel)
    exact ⟨outcome, error, ended, stopped, reports⟩

end ColorMarkup
