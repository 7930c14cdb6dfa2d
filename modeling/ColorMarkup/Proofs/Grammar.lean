import ColorMarkup.Construct

/-!
The grammar of the markup as a relation, and the reader against it. Every text begins with exactly
one construct or one faulty bracket, the reader finds it, and so a text falls into constructs in at
most one way.
-/

namespace ColorMarkup

namespace Signs

theorem directiveSign_ne_stop (signs : Signs) (slot : Slot) :
    signs.directiveSign slot ≠ signs.stop := by
  have distinct := signs.distinct
  simp only [PerSign.toList, List.nodup_cons, List.mem_cons, not_or] at distinct
  cases slot with
  | foreground => exact distinct.1.2.1
  | background => exact distinct.2.1.1

theorem directiveSign_ne_openBracket (signs : Signs) (slot : Slot) :
    signs.directiveSign slot ≠ signs.openBracket := by
  have distinct := signs.distinct
  simp only [PerSign.toList, List.nodup_cons, List.mem_cons, not_or] at distinct
  cases slot with
  | foreground => exact distinct.1.2.2.1
  | background => exact distinct.2.1.2.1

@[simp] theorem slot?_directiveSign (signs : Signs) (slot : Slot) :
    signs.slot? (signs.directiveSign slot) = some slot := by
  have distinct := signs.distinct
  simp only [PerSign.toList, List.nodup_cons, List.mem_cons, not_or] at distinct
  cases slot with
  | foreground => simp [slot?, directiveSign]
  | background => simp [slot?, directiveSign, Ne.symm distinct.1.1]

theorem slot?_eq_none {signs : Signs} {character : Char} (notFore : character ≠ signs.fore)
    (notBack : character ≠ signs.back) : signs.slot? character = none := by
  simp [slot?, notFore, notBack]

@[simp] theorem isPlainDigit_directiveSign (signs : Signs) (slot : Slot) :
    Text.isPlainDigit (signs.directiveSign slot) = false :=
  signs.noDigit _ (by cases slot <;> simp [directiveSign, PerSign.toList])

@[simp] theorem isPlainDigit_openBracket (signs : Signs) :
    Text.isPlainDigit signs.openBracket = false :=
  signs.noDigit signs.openBracket (by simp [PerSign.toList])

@[simp] theorem isPlainDigit_closeBracket (signs : Signs) :
    Text.isPlainDigit signs.closeBracket = false :=
  signs.noDigit signs.closeBracket (by simp [PerSign.toList])

def Introduces (signs : Signs) : List Char → Prop
  | [] => False
  | second :: rest => Text.isPlainDigit second ∨ second = signs.openBracket ∧ rest ≠ []

theorem not_introduces_directiveSign (signs : Signs) (slot : Slot) (rest : List Char) :
    ¬signs.Introduces (signs.directiveSign slot :: rest) := by
  simp [Introduces, signs.directiveSign_ne_openBracket]

end Signs

/-- A text begins with a construct and goes on with the rest. -/
inductive Construct.Heads (signs : Signs) : Construct → List Char → List Char → Prop
  | ordinary {character rest} : character ≠ signs.fore → character ≠ signs.back →
      character ≠ signs.stop → Heads signs (.ordinary character) (character :: rest) rest
  | finalStop : Heads signs .finalStop [signs.stop] []
  | doubledStop {rest} : Heads signs .doubledStop (signs.stop :: signs.stop :: rest) rest
  | segment {text rest} : text ≠ [] → signs.stop ∉ text →
      Heads signs (.segment text) (signs.stop :: (text ++ signs.stop :: rest)) rest
  | openSegment {text} : text ≠ [] → signs.stop ∉ text →
      Heads signs (.openSegment text) (signs.stop :: text) []
  | singleDigit {slot digit rest} : Text.isPlainDigit digit →
      Heads signs (.singleDigit slot digit) (signs.directiveSign slot :: digit :: rest) rest
  | bracketed {slot digits rest} : digits ≠ [] → (∀ digit ∈ digits, Text.isPlainDigit digit) →
      Heads signs (.bracketed slot digits)
        (signs.directiveSign slot :: signs.openBracket :: (digits ++ signs.closeBracket :: rest))
        rest
  | loneSign {slot rest} : ¬signs.Introduces rest →
      Heads signs (.loneSign slot) (signs.directiveSign slot :: rest) rest

/-- A text begins with a directive sign and a faulty bracket. -/
inductive BracketFault.Heads (signs : Signs) : BracketFault → List Char → Prop
  | unterminated {slot inside} : inside ≠ [] → signs.closeBracket ∉ inside →
      Heads signs .unterminated (signs.directiveSign slot :: signs.openBracket :: inside)
  | notNumber {slot content rest} : signs.closeBracket ∉ content →
      ¬(content ≠ [] ∧ ∀ digit ∈ content, Text.isPlainDigit digit) →
      Heads signs (.notNumber content)
        (signs.directiveSign slot :: signs.openBracket :: (content ++ signs.closeBracket :: rest))

def Construct.Final : Construct → Prop
  | finalStop => True
  | openSegment _ => True
  | _ => False

/-- A text falls into constructs and a rest. -/
inductive Splits (signs : Signs) : List Char → List Construct → List Char → Prop
  | done {rest} : Splits signs rest [] rest
  | more {construct text after constructs rest} : construct.Heads signs text after →
      Splits signs after constructs rest → Splits signs text (construct :: constructs) rest

theorem ne_of_mem_of_absent {text : List Char} {sign : Char} (absent : sign ∉ text) :
    ∀ character ∈ text, (character != sign) = true := by
  intro character member
  simp only [bne_iff_ne]
  rintro rfl
  exact absent member

theorem takeWhile_ne_append {text after : List Char} {sign : Char} (absent : sign ∉ text) :
    (text ++ sign :: after).takeWhile (· != sign) = text := by
  rw [List.takeWhile_append_of_pos (ne_of_mem_of_absent absent)]
  simp

theorem dropWhile_ne_append {text after : List Char} {sign : Char} (absent : sign ∉ text) :
    (text ++ sign :: after).dropWhile (· != sign) = sign :: after := by
  rw [List.dropWhile_append_of_pos (ne_of_mem_of_absent absent)]
  simp

theorem dropWhile_ne_eq_nil {text : List Char} {sign : Char} (absent : sign ∉ text) :
    text.dropWhile (· != sign) = [] := by
  rw [← List.append_nil text, List.dropWhile_append_of_pos (ne_of_mem_of_absent absent)]
  rfl

namespace Construct

theorem afterDirectiveSign_bracket (signs : Signs) (slot : Slot) {inside : List Char}
    (nonempty : inside ≠ []) :
    afterDirectiveSign signs slot (signs.openBracket :: inside)
      = afterBracket signs slot inside := by
  simp [afterDirectiveSign, nonempty]

theorem next_directiveSign (signs : Signs) (slot : Slot) (rest : List Char) :
    next signs (signs.directiveSign slot) rest = afterDirectiveSign signs slot rest := by
  simp [next, signs.directiveSign_ne_stop]

theorem afterBracket_append (signs : Signs) (slot : Slot) {content rest : List Char}
    (absent : signs.closeBracket ∉ content) :
    afterBracket signs slot (content ++ signs.closeBracket :: rest)
      = bracketContent slot content rest := by
  simp only [afterBracket, dropWhile_ne_append absent, takeWhile_ne_append absent]

theorem next_of_heads {signs : Signs} {construct : Construct} {first : Char}
    {rest after : List Char} (heads : construct.Heads signs (first :: rest) after) :
    next signs first rest = .ok (construct, after) := by
  cases heads with
  | ordinary notFore notBack notStop =>
    simp [next, notStop, Signs.slot?_eq_none notFore notBack]
  | finalStop => simp [next, afterStop]
  | doubledStop => simp [next, afterStop]
  | @segment text _ nonempty absent =>
    cases text with
    | nil => contradiction
    | cons second inside =>
      have notStop : second ≠ signs.stop := by
        rintro rfl
        simp at absent
      simp only [next, afterStop, List.cons_append, if_true, notStop, if_false]
      rw [← List.cons_append, dropWhile_ne_append absent, takeWhile_ne_append absent]
  | openSegment nonempty absent =>
    cases rest with
    | nil => contradiction
    | cons second inside =>
      have notStop : second ≠ signs.stop := by
        rintro rfl
        simp at absent
      simp only [next, afterStop, if_true, notStop, if_false]
      rw [dropWhile_ne_eq_nil absent]
  | singleDigit plain =>
    rw [next_directiveSign]
    simp [afterDirectiveSign, plain]
  | @bracketed slot digits _ nonempty plain =>
    have absent : signs.closeBracket ∉ digits := by
      intro member
      have digit := plain _ member
      simp at digit
    rw [next_directiveSign, afterDirectiveSign_bracket _ _ (by simp),
      afterBracket_append _ _ absent, bracketContent, if_pos ⟨nonempty, List.all_eq_true.mpr plain⟩]
  | loneSign introducesNot =>
    rw [next_directiveSign]
    cases rest with
    | nil => rfl
    | cons second inside =>
      simp only [Signs.Introduces, not_or, Bool.not_eq_true] at introducesNot
      simp only [afterDirectiveSign, introducesNot.1, Bool.false_eq_true, if_false]
      rw [if_neg introducesNot.2]

theorem next_of_faulty {signs : Signs} {fault : BracketFault} {first : Char} {rest : List Char}
    (heads : fault.Heads signs (first :: rest)) : next signs first rest = .error fault := by
  cases heads with
  | unterminated nonempty absent =>
    rw [next_directiveSign, afterDirectiveSign_bracket _ _ nonempty, afterBracket,
      dropWhile_ne_eq_nil absent]
  | @notNumber slot content _ absent noNumber =>
    have refused : ¬(content ≠ [] ∧ content.all Text.isPlainDigit = true) := by
      rwa [List.all_eq_true]
    rw [next_directiveSign, afterDirectiveSign_bracket _ _ (by simp),
      afterBracket_append _ _ absent, bracketContent, if_neg refused]

theorem heads_of_stop (signs : Signs) (rest : List Char) :
    ∃ construct after, Heads signs construct (signs.stop :: rest) after := by
  cases rest with
  | nil => exact ⟨_, _, .finalStop⟩
  | cons second inside =>
    by_cases doubled : second = signs.stop
    · subst second
      exact ⟨_, _, .doubledStop⟩
    · by_cases closed : signs.stop ∈ second :: inside
      · obtain ⟨text, after, split, absent⟩ := List.eq_append_cons_of_mem closed
        have nonempty : text ≠ [] := by
          rintro rfl
          exact doubled (List.cons.inj split).1
        rw [split]
        exact ⟨_, _, .segment nonempty absent⟩
      · exact ⟨_, _, .openSegment (by simp) closed⟩

theorem heads_or_faulty_of_bracket (signs : Signs) (slot : Slot) {inside : List Char}
    (nonempty : inside ≠ []) :
    (∃ construct after, Heads signs construct
      (signs.directiveSign slot :: signs.openBracket :: inside) after) ∨
    ∃ fault, BracketFault.Heads signs fault
      (signs.directiveSign slot :: signs.openBracket :: inside) := by
  by_cases closed : signs.closeBracket ∈ inside
  · obtain ⟨content, after, split, absent⟩ := List.eq_append_cons_of_mem closed
    rw [split]
    by_cases number : content ≠ [] ∧ ∀ digit ∈ content, Text.isPlainDigit digit
    · exact .inl ⟨_, _, .bracketed number.1 number.2⟩
    · exact .inr ⟨_, .notNumber absent number⟩
  · exact .inr ⟨_, .unterminated nonempty closed⟩

theorem heads_or_faulty_of_directiveSign (signs : Signs) (slot : Slot) (rest : List Char) :
    (∃ construct after, Heads signs construct (signs.directiveSign slot :: rest) after) ∨
    ∃ fault, BracketFault.Heads signs fault (signs.directiveSign slot :: rest) := by
  by_cases introduces : signs.Introduces rest
  · cases rest with
    | nil => exact introduces.elim
    | cons second inside =>
      rcases introduces with digit | ⟨bracket, nonempty⟩
      · exact .inl ⟨_, _, .singleDigit digit⟩
      · subst bracket
        exact heads_or_faulty_of_bracket signs slot nonempty
  · exact .inl ⟨_, _, .loneSign introduces⟩

theorem heads_or_faulty (signs : Signs) (first : Char) (rest : List Char) :
    (∃ construct after, Heads signs construct (first :: rest) after) ∨
    ∃ fault, BracketFault.Heads signs fault (first :: rest) := by
  by_cases isStop : first = signs.stop
  · subst isStop
    exact .inl (heads_of_stop signs rest)
  · cases found : signs.slot? first with
    | some slot =>
      rw [Signs.eq_directiveSign_of_slot? found]
      exact heads_or_faulty_of_directiveSign signs slot rest
    | none =>
      have notFore : first ≠ signs.fore := by
        rintro rfl
        simp [Signs.slot?] at found
      have notBack : first ≠ signs.back := by
        rintro rfl
        simp [Signs.slot?, notFore] at found
      exact .inl ⟨_, _, .ordinary notFore notBack isStop⟩

namespace Heads

variable {signs : Signs} {construct : Construct} {text rest : List Char}

theorem exists_cons (heads : construct.Heads signs text rest) :
    ∃ first inside, text = first :: inside := by
  cases heads <;> exact ⟨_, _, rfl⟩

theorem source_append (heads : construct.Heads signs text rest) :
    construct.source signs ++ rest = text := by
  obtain ⟨first, inside, rfl⟩ := heads.exists_cons
  exact source_next (next_of_heads heads)

theorem length_eq (heads : construct.Heads signs text rest) :
    text.length = construct.width + rest.length := by
  simp [← heads.source_append]

theorem rest_of_final (heads : construct.Heads signs text rest) (final : construct.Final) :
    rest = [] := by
  cases heads with
  | finalStop => rfl
  | openSegment _ _ => rfl
  | _ => exact final.elim

theorem before (heads : construct.Heads signs text rest) {other : List Char}
    (final : construct.Final → other = [])
    (lone : ∀ slot, construct = .loneSign slot → signs.Introduces other → signs.Introduces rest) :
    construct.Heads signs (construct.source signs ++ other) other := by
  cases heads with
  | ordinary notFore notBack notStop => exact .ordinary notFore notBack notStop
  | finalStop =>
    rw [final trivial]
    exact .finalStop
  | doubledStop => exact .doubledStop
  | @segment inside _ filled absent =>
    have form : (Construct.segment inside).source signs ++ other
        = signs.stop :: (inside ++ signs.stop :: other) := by simp [source]
    rw [form]
    exact .segment filled absent
  | @openSegment inside filled absent =>
    rw [final trivial, List.append_nil]
    exact .openSegment filled absent
  | singleDigit plain => exact .singleDigit plain
  | @bracketed slot digits _ filled plain =>
    have form : (Construct.bracketed slot digits).source signs ++ other
        = signs.directiveSign slot :: signs.openBracket
          :: (digits ++ signs.closeBracket :: other) := by simp [source]
    rw [form]
    exact .bracketed filled plain
  | @loneSign slot _ introducesNot =>
    exact .loneSign fun introduces => introducesNot (lone slot rfl introduces)

theorem plain_digits {slot : Slot} {digits : List Char} (heads : construct.Heads signs text rest)
    (directive : construct.meaning signs = .directive slot digits) :
    ∀ digit ∈ digits, Text.isPlainDigit digit := by
  cases heads with
  | singleDigit plain =>
    injection directive with _ same
    simpa [← same] using plain
  | bracketed _ plain =>
    injection directive with _ same
    rwa [← same]
  | _ => cases directive

theorem unique {other : Construct} {otherRest : List Char} (heads : construct.Heads signs text rest)
    (otherHeads : other.Heads signs text otherRest) : construct = other ∧ rest = otherRest := by
  obtain ⟨first, inside, rfl⟩ := heads.exists_cons
  have same := (next_of_heads heads).symm.trans (next_of_heads otherHeads)
  injection same with pair
  injection pair with construct rest
  exact ⟨construct, rest⟩

end Heads

end Construct

theorem BracketFault.Heads.exists_cons {signs : Signs} {fault : BracketFault} {text : List Char}
    (heads : fault.Heads signs text) : ∃ first inside, text = first :: inside := by
  cases heads <;> exact ⟨_, _, rfl⟩

namespace Reading

variable {signs : Signs} {text : List Char}

theorem ofText_of_heads {construct : Construct} {rest : List Char}
    (heads : construct.Heads signs text rest) :
    ofText signs text =
      { constructs := construct :: (ofText signs rest).constructs
        fault := (ofText signs rest).fault } := by
  obtain ⟨first, inside, rfl⟩ := heads.exists_cons
  exact ofText_cons_ok (Construct.next_of_heads heads)

theorem ofText_of_faulty {fault : BracketFault} (heads : fault.Heads signs text) :
    ofText signs text = { constructs := [], fault := some fault } := by
  obtain ⟨first, inside, rfl⟩ := heads.exists_cons
  exact ofText_cons_error (Construct.next_of_faulty heads)

end Reading

/-- Induction along the reading of a text. -/
theorem reading_induction (signs : Signs) {motive : List Char → Prop} (nil : motive [])
    (more : ∀ {construct text rest}, Construct.Heads signs construct text rest → motive rest →
      motive text)
    (faulty : ∀ {fault text}, BracketFault.Heads signs fault text → motive text)
    (text : List Char) : motive text := by
  induction size : text.length using Nat.strongRecOn generalizing text with
  | ind size ih =>
    cases text with
    | nil => exact nil
    | cons first inside =>
      rcases Construct.heads_or_faulty signs first inside with
        ⟨construct, rest, heads⟩ | ⟨fault, heads⟩
      · have total := heads.length_eq
        have positive := construct.width_pos
        exact more heads (ih rest.length (by omega) rest rfl)
      · exact faulty heads

namespace Splits

variable {signs : Signs} {text rest : List Char}

theorem unique {first second : List Construct} (one : Splits signs text first [])
    (other : Splits signs text second []) : first = second := by
  induction first generalizing text second with
  | nil =>
    cases one
    cases other with
    | done => rfl
    | more heads _ => cases heads
  | cons construct constructs ih =>
    cases one with
    | more heads tail =>
      cases other with
      | done => cases heads
      | more otherHeads otherTail =>
        obtain ⟨rfl, rfl⟩ := heads.unique otherHeads
        rw [ih tail otherTail]

end Splits

end ColorMarkup
