import ColorMarkup.Json.Reader
import ColorMarkup.Json.Writer
import ColorMarkup.Proofs.ColorIndex

/-!
Documents in the JavaScript object notation, written and read back. What is written consists of
printable basic characters and has one reading, which is the value that was written.
-/

namespace ColorMarkup.Json

def IsBasic (text : List Char) : Prop :=
  ∀ character ∈ text, 0x20 ≤ character.toNat ∧ character.toNat < 0x7f

instance (text : List Char) : Decidable (IsBasic text) :=
  List.decidableBAll (fun character : Char => 0x20 ≤ character.toNat ∧ character.toNat < 0x7f) text

namespace IsBasic

theorem append {first second : List Char} (basic : IsBasic first) (others : IsBasic second) :
    IsBasic (first ++ second) :=
  List.forall_mem_append.mpr ⟨basic, others⟩

theorem cons {character : Char} {text : List Char}
    (range : 0x20 ≤ character.toNat ∧ character.toNat < 0x7f) (basic : IsBasic text) :
    IsBasic (character :: text) :=
  List.forall_mem_cons.mpr ⟨range, basic⟩

theorem separated {mark : Char} {first second : List Char} (basic : IsBasic first)
    (range : 0x20 ≤ mark.toNat ∧ mark.toNat < 0x7f) (others : IsBasic second) :
    IsBasic (first ++ mark :: ' ' :: second) :=
  basic.append (cons range (cons (by decide) others))

theorem of_digits {digits : List Char} (plain : ∀ digit ∈ digits, Text.isPlainDigit digit) :
    IsBasic digits := by
  intro digit member
  have range := plain digit member
  simp only [Text.isPlainDigit, Bool.and_eq_true, decide_eq_true_eq] at range
  have lower : '0'.toNat ≤ digit.toNat := range.1
  have upper : digit.toNat ≤ '9'.toNat := range.2
  have zero : '0'.toNat = 48 := rfl
  have nine : '9'.toNat = 57 := rfl
  omega

theorem hex (width number : Nat) : IsBasic (Text.hex width number) := by
  have digits : ∀ value < 16,
      0x20 ≤ (Text.hexDigit value).toNat ∧ (Text.hexDigit value).toNat < 0x7f := by decide
  induction width generalizing number with
  | zero => simp [IsBasic, Text.hex]
  | succ width ih =>
    refine (ih (number / 16)).append (cons (digits _ (Nat.mod_lt _ (by decide))) ?_)
    simp [IsBasic]

end IsBasic

section Strings

theorem unit?_hex {unit : Nat} (small : unit < 0x10000) :
    ∃ first second third fourth, Text.hex 4 unit = [first, second, third, fourth]
      ∧ unit? first second third fourth = some unit := by
  have digit (value : Nat) := hexValue?_hexDigit (Nat.mod_lt value (show 0 < 16 by decide))
  refine ⟨_, _, _, _, rfl, ?_⟩
  simp only [unit?, digit, Option.some.injEq]
  omega

theorem readString_writeUnit {unit : Nat} (small : unit < 0x10000) (done rest : List Char) :
    readString none done (writeUnit unit ++ rest)
      = if isHighSurrogate unit then readString (some unit) done rest
        else if isLowSurrogate unit then none
        else readString none (Char.ofNat unit :: done) rest := by
  obtain ⟨first, second, third, fourth, digits, read⟩ := unit?_hex small
  simp only [writeUnit, digits, List.cons_append, List.nil_append]
  rw [readString.eq_def]
  simp only [read]

theorem readString_writeUnit_low {high low : Nat} (small : low < 0x10000)
    (surrogate : isLowSurrogate low = true) (done rest : List Char) :
    readString (some high) done (writeUnit low ++ rest)
      = readString none (joinSurrogates high low :: done) rest := by
  obtain ⟨first, second, third, fourth, digits, read⟩ := unit?_hex small
  simp only [writeUnit, digits, List.cons_append, List.nil_append]
  rw [readString.eq_def]
  simp only [read, if_pos surrogate]

theorem readString_basic {character : Char} (basic : character.toNat < 0x10000)
    (done rest : List Char) :
    readString none done (writeUnit character.toNat ++ rest)
      = readString none (character :: done) rest := by
  have valid : character.toNat.isValidChar := character.valid
  unfold Nat.isValidChar at valid
  have notHigh : isHighSurrogate character.toNat = false := by
    simp only [isHighSurrogate, Bool.and_eq_false_iff, decide_eq_false_iff_not]
    omega
  have notLow : isLowSurrogate character.toNat = false := by
    simp only [isLowSurrogate, Bool.and_eq_false_iff, decide_eq_false_iff_not]
    omega
  -- No character is a surrogate, so the unit of one stands for itself.
  rw [readString_writeUnit basic, notHigh, notLow, Char.ofNat_toNat]
  rfl

theorem readString_pair {character : Char} (beyond : ¬ character.toNat < 0x10000)
    (done rest : List Char) :
    readString none done (writeUnit (0xd800 + (character.toNat - 0x10000) / 0x400)
        ++ (writeUnit (0xdc00 + (character.toNat - 0x10000) % 0x400) ++ rest))
      = readString none (character :: done) rest := by
  have valid : character.toNat.isValidChar := character.valid
  unfold Nat.isValidChar at valid
  have high : isHighSurrogate (0xd800 + (character.toNat - 0x10000) / 0x400) = true := by
    simp only [isHighSurrogate, Bool.and_eq_true, decide_eq_true_eq]
    omega
  have low : isLowSurrogate (0xdc00 + (character.toNat - 0x10000) % 0x400) = true := by
    simp only [isLowSurrogate, Bool.and_eq_true, decide_eq_true_eq]
    omega
  have joined : joinSurrogates (0xd800 + (character.toNat - 0x10000) / 0x400)
      (0xdc00 + (character.toNat - 0x10000) % 0x400) = character := by
    have code : 0x10000 + (0xd800 + (character.toNat - 0x10000) / 0x400 - 0xd800) * 0x400
        + (0xdc00 + (character.toNat - 0x10000) % 0x400 - 0xdc00) = character.toNat := by omega
    rw [joinSurrogates, code, Char.ofNat_toNat]
  rw [readString_writeUnit (by omega), if_pos high, readString_writeUnit_low (by omega) low, joined]

/-- How a character may be written in a string. -/
inductive Spelling (character : Char) : List Char → Prop
  | itself : character ≠ '"' → character ≠ '\\' →
      0x20 ≤ character.toNat ∧ character.toNat < 0x7f → Spelling character [character]
  | escape {letter : Char} : escaped? letter = some character → Spelling character ['\\', letter]
  | unit : character.toNat < 0x10000 → Spelling character (writeUnit character.toNat)
  | pair : ¬ character.toNat < 0x10000 →
      Spelling character (writeUnit (0xd800 + (character.toNat - 0x10000) / 0x400)
        ++ writeUnit (0xdc00 + (character.toNat - 0x10000) % 0x400))

theorem spelling_writeCharacter (character : Char) :
    Spelling character (writeCharacter character) := by
  unfold writeCharacter
  split
  · rename_i mark
    rcases mark with rfl | rfl <;> exact .escape rfl
  rename_i unmarked
  rw [not_or] at unmarked
  split
  · rename_i newline
    exact .escape (newline ▸ rfl)
  split
  · rename_i carriageReturn
    exact .escape (carriageReturn ▸ rfl)
  split
  · rename_i tab
    exact .escape (tab ▸ rfl)
  split
  · rename_i backspace
    exact .escape (congrArg some (Char.toNat_inj.mp backspace.symm))
  split
  · rename_i formFeed
    exact .escape (congrArg some (Char.toNat_inj.mp formFeed.symm))
  simp only
  split
  · rename_i range
    exact .itself unmarked.1 unmarked.2 range
  split
  · rename_i basic
    exact .unit basic
  · rename_i beyond
    exact .pair beyond

variable {character : Char} {written : List Char}

theorem Spelling.basic (spelling : Spelling character written) : IsBasic written := by
  have unit (number : Nat) : IsBasic (writeUnit number) :=
    .cons (by decide) (.cons (by decide) (.hex 4 number))
  cases spelling with
  | itself _ _ range => simpa [IsBasic] using range
  | @escape letter meant =>
    have range : 0x20 ≤ letter.toNat ∧ letter.toNat < 0x7f := by
      unfold escaped? at meant
      split at meant <;> first | decide | contradiction
    exact .cons (by decide) (by simpa [IsBasic] using range)
  | unit _ => exact unit _
  | pair _ => exact (unit _).append (unit _)

theorem Spelling.read (spelling : Spelling character written) (done rest : List Char) :
    readString none done (written ++ rest) = readString none (character :: done) rest := by
  cases spelling with
  | itself notMark notBackslash range =>
    rw [List.singleton_append, readString]
    · simp [range.1, notBackslash]
    · simp [notBackslash]
    · simp [notBackslash]
    · exact notMark
  | @escape letter meant =>
    unfold escaped? at meant
    split at meant <;> cases meant <;> rfl
  | unit basic => exact readString_basic basic done rest
  | pair beyond =>
    rw [List.append_assoc]
    exact readString_pair beyond done rest

theorem readString_writeString (text rest : List Char) (done : List Char) :
    readString none done (text.flatMap writeCharacter ++ '"' :: rest)
      = some (done.reverse ++ text, rest) := by
  induction text generalizing done with
  | nil => simp [readString]
  | cons character others ih =>
    rw [List.flatMap_cons, List.append_assoc, (spelling_writeCharacter character).read, ih]
    simp

theorem isBasic_writeString (text : List Char) : IsBasic (writeString text) := by
  have inside : IsBasic (text.flatMap writeCharacter) := by
    intro letter member
    obtain ⟨character, _, written⟩ := List.mem_flatMap.mp member
    exact (spelling_writeCharacter character).basic letter written
  exact .cons (by decide) (inside.append (by simp [IsBasic]))

end Strings

section Numbers

/-- What may stand behind a value: nothing, or what goes on with the document. -/
def Ends (rest : List Char) : Prop :=
  ∀ character ∈ rest.head?, character = ',' ∨ character = ']' ∨ character = '\x7d'

theorem lone_zero {number : Nat} {digits : List Char}
    (shown : (toString number).toList = '0' :: digits) : digits = [] := by
  have plain : ∀ digit ∈ (toString number).toList, Text.isPlainDigit digit :=
    fun _ member => isPlainDigit_of_mem_toString member
  have counted := significant_eq_toString plain
  rw [plainValue_toString, shown] at counted
  unfold significant at counted
  split at counted
  · exact (List.cons.inj counted).2.symm
  · rename_i lead rest dropped
    exact absurd (List.cons.inj counted).1 (ne_zero_of_dropWhile dropped)

theorem ne_nil_toString (number : Nat) : (toString number).toList ≠ [] := by
  rw [Nat.toString_eq_repr, Nat.toList_repr]
  exact Nat.toDigits_ne_nil

theorem takeWhile_digits {digits rest : List Char}
    (plain : ∀ digit ∈ digits, Text.isPlainDigit digit) (ends : Ends rest) :
    (digits ++ rest).takeWhile Text.isPlainDigit = digits
      ∧ (digits ++ rest).dropWhile Text.isPlainDigit = rest := by
  rw [List.takeWhile_append_of_pos plain, List.dropWhile_append_of_pos plain]
  cases rest with
  | nil => simp
  | cons character others =>
    have other : Text.isPlainDigit character = false := by
      rcases ends character rfl with rfl | rfl | rfl <;> rfl
    simp [other]

theorem readExponent_ends {rest : List Char} (ends : Ends rest) :
    Decimal.readExponent rest = none := by
  cases rest with
  | nil => rfl
  | cons character others =>
    rcases ends character rfl with rfl | rfl | rfl <;> rfl

theorem readNumber_digits {lead : Char} {digits rest : List Char}
    (plain : ∀ digit ∈ lead :: digits, Text.isPlainDigit digit)
    (noZero : lead = '0' → digits = []) (ends : Ends rest) (negative : Bool) :
    readNumber ((if negative then ['-'] else []) ++ (lead :: digits ++ rest))
      = some (.integer (if negative then -(Text.plainValue (lead :: digits) : Int)
          else Text.plainValue (lead :: digits)), rest) := by
  obtain ⟨taken, others⟩ := takeWhile_digits plain ends
  -- The match on a fraction is stuck until it is known that none follows.
  have noFraction : ∀ digit more, rest ≠ '.' :: digit :: more := by
    rintro digit more rfl
    simp [Ends] at ends
  have whole : ((lead :: digits).isEmpty
      || ((lead :: digits).head? == some '0' && (lead :: digits).length != 1)) = false := by
    by_cases zero : lead = '0'
    · simp [noZero zero]
    · simp [zero]
  unfold readNumber
  split
  rename_i minus number parted
  have sign : (negative, lead :: digits ++ rest) = (minus, number) := by
    rw [← parted]
    cases negative with
    | true => rfl
    | false =>
      have digit := plain lead List.mem_cons_self
      simp only [Bool.false_eq_true, if_false, List.nil_append, List.cons_append]
      split
      · rename_i signed
        rw [(List.cons.inj signed).1] at digit
        contradiction
      · rfl
  obtain ⟨rfl, rfl⟩ := Prod.mk.inj sign
  simp only [taken, others, whole, readExponent_ends ends]
  rfl

theorem toList_toString (value : Int) :
    ∃ (negative : Bool) (number : Nat), (toString value).toList
        = (if negative = true then ['-'] else []) ++ (toString number).toList
      ∧ value = if negative then -(number : Int) else number := by
  cases value with
  | ofNat number => exact ⟨false, number, rfl, rfl⟩
  | negSucc number =>
    refine ⟨true, number + 1, ?_, rfl⟩
    have same : toString (Int.negSucc number) = "-" ++ toString (number + 1) := rfl
    rw [same, String.toList_append]
    rfl

theorem readNumber_toString {rest : List Char} (ends : Ends rest) (value : Int) :
    readNumber ((toString value).toList ++ rest) = some (.integer value, rest) := by
  obtain ⟨negative, number, written, same⟩ := toList_toString value
  have plain : ∀ digit ∈ (toString number).toList, Text.isPlainDigit digit :=
    fun _ member => isPlainDigit_of_mem_toString member
  have counted := plainValue_toString number
  rw [written, List.append_assoc]
  cases shown : (toString number).toList with
  | nil => exact absurd shown (ne_nil_toString number)
  | cons lead digits =>
    rw [shown] at plain counted
    have noZero : lead = '0' → digits = [] := by
      rintro rfl
      exact lone_zero shown
    rw [readNumber_digits plain noZero ends, counted, same]

theorem isBasic_toString (value : Int) : IsBasic (toString value).toList := by
  obtain ⟨negative, number, written, _⟩ := toList_toString value
  rw [written]
  refine .append ?_ (.of_digits fun digit member => isPlainDigit_of_mem_toString member)
  cases negative <;> simp [IsBasic]

end Numbers

section Values

/-- A text that is read as a value whenever there is fuel for its characters. -/
def Reads (written : List Char) (value : Value) : Prop :=
  ∀ fuel rest, written.length ≤ fuel → Ends rest →
    readValue (fuel + 1) (written ++ rest) = some (value, rest)

def Begins (written : List Char) : Prop :=
  ∃ lead rest, written = lead :: rest ∧ isSpace lead = false ∧ lead ≠ ']'

theorem Begins.append {written : List Char} (begins : Begins written) (more : List Char) :
    Begins (written ++ more) := by
  obtain ⟨lead, rest, rfl, notSpace, notEnd⟩ := begins
  exact ⟨lead, rest ++ more, rfl, notSpace, notEnd⟩

theorem Begins.items {item : Value} (begins : Begins (write item)) (items : List Value) :
    Begins (writeItems (item :: items)) := by
  cases items with
  | nil => exact begins
  | cons next others => exact begins.append _

variable {value : Value} {fuel : Nat}

theorem skipSpace_cons {lead : Char} (notSpace : isSpace lead = false) (rest : List Char) :
    skipSpace (lead :: rest) = lead :: rest :=
  List.dropWhile_cons_of_neg (by simp [notSpace])

theorem readValue_space (fuel : Nat) (text : List Char) :
    readValue fuel (' ' :: text) = readValue fuel text := by
  cases fuel <;> rfl

theorem readItems_space (fuel : Nat) (done : List Value) (text : List Char) :
    readItems fuel done (' ' :: text) = readItems fuel done text := by
  cases fuel with
  | zero => rfl
  | succ fuel => rw [readItems, readItems, readValue_space]

theorem readMembers_space (fuel : Nat) (done : Entries) (text : List Char) :
    readMembers fuel done (' ' :: text) = readMembers fuel done text := by
  cases fuel <;> rfl

theorem begins_toString (value : Int) : ∃ lead rest, (toString value).toList = lead :: rest
    ∧ (lead = '-' ∨ Text.isPlainDigit lead) := by
  obtain ⟨negative, number, written, _⟩ := toList_toString value
  rw [written]
  cases negative with
  | true => exact ⟨'-', _, rfl, .inl rfl⟩
  | false =>
    obtain ⟨lead, digits, shown⟩ := List.exists_cons_of_ne_nil (ne_nil_toString number)
    have member : lead ∈ (toString number).toList := by
      rw [shown]
      exact List.mem_cons_self
    exact ⟨lead, digits, shown, .inr (isPlainDigit_of_mem_toString member)⟩

theorem not_of_numeral {lead other : Char} (numeral : lead = '-' ∨ Text.isPlainDigit lead)
    (different : other ≠ '-') (notDigit : Text.isPlainDigit other = false) : lead ≠ other := by
  rintro rfl
  rcases numeral with minus | digit
  · exact different minus
  · rw [notDigit] at digit
    contradiction

theorem isSpace_numeral {lead : Char} (numeral : lead = '-' ∨ Text.isPlainDigit lead) :
    isSpace lead = false := by
  have different {space : Char} := @not_of_numeral lead space numeral
  simp [isSpace, different (show ' ' ≠ '-' by decide) rfl, different (show '\t' ≠ '-' by decide) rfl,
    different (show '\n' ≠ '-' by decide) rfl, different (show '\r' ≠ '-' by decide) rfl]

theorem readValue_number {lead : Char} (numeral : lead = '-' ∨ Text.isPlainDigit lead)
    (fuel : Nat) (rest : List Char) :
    readValue (fuel + 1) (lead :: rest) = readNumber (lead :: rest) := by
  rw [readValue, skipSpace_cons (isSpace_numeral numeral)]
  split
  all_goals first
    | rfl
    | rename_i same
      exact absurd (List.cons.inj same).1 (not_of_numeral numeral (by decide) rfl)

theorem readValue_items {body : List Char} (begins : Begins body) (fuel : Nat) :
    readValue (fuel + 1) ('[' :: body) = readItems fuel [] body := by
  obtain ⟨lead, rest, rfl, notSpace, notEnd⟩ := begins
  rw [readValue, skipSpace_cons rfl]
  simp only [skipSpace_cons notSpace]
  split
  · rename_i same
    exact absurd (List.cons.inj same).1 notEnd
  · rfl

theorem readValue_members (fuel : Nat) (member : String × Value) (members : Entries)
    (rest : List Char) :
    readValue (fuel + 1) ('\x7b' :: (writeMembers (member :: members) ++ rest))
      = readMembers fuel [] (writeMembers (member :: members) ++ rest) := by
  cases members <;> rfl

theorem reads_items {item : Value} {items : List Value}
    (reads : ∀ entry ∈ item :: items, Reads (write entry) entry) {fuel : Nat}
    (enough : (writeItems (item :: items)).length ≤ fuel) (done : List Value) (rest : List Char) :
    readItems (fuel + 2) done (writeItems (item :: items) ++ ']' :: rest)
      = some (.array (done.reverse ++ item :: items), rest) := by
  induction items generalizing item done fuel with
  | nil =>
    obtain ⟨first, _⟩ := List.forall_mem_cons.mp reads
    have written : writeItems [item] = write item := rfl
    rw [written] at enough ⊢
    rw [readItems, first fuel _ enough (by simp [Ends])]
    simp only [skipSpace_cons (show isSpace ']' = false from rfl), List.reverse_cons]
  | cons next others ih =>
    obtain ⟨first, later⟩ := List.forall_mem_cons.mp reads
    have written : writeItems (item :: next :: others)
        = write item ++ ',' :: ' ' :: writeItems (next :: others) := rfl
    rw [written, List.length_append, List.length_cons, List.length_cons] at enough
    obtain ⟨less, rfl⟩ := Nat.exists_eq_add_one.mpr (show 0 < fuel by omega)
    have whole := ih later (show (writeItems (next :: others)).length ≤ less by omega) (item :: done)
    rw [written, List.append_assoc, readItems, first _ _ (by omega) (by simp [Ends])]
    simpa [skipSpace, isSpace, readItems_space] using whole

def afterMember (fuel : Nat) (done : Entries) : List Char → Option (Value × List Char)
  | ',' :: rest => readMembers fuel done rest
  | '\x7d' :: rest => some (.table done.reverse, rest)
  | _ => none

theorem readMembers_member {key : String} {rest : List Char}
    (read : readValue fuel (write value ++ rest) = some (value, rest)) (done : Entries) :
    readMembers (fuel + 1) done (writeString key.toList ++ ':' :: ' ' :: (write value ++ rest))
      = afterMember fuel ((key, value) :: done) (skipSpace rest) := by
  have opened : writeString key.toList ++ ':' :: ' ' :: (write value ++ rest)
      = '"' :: (key.toList.flatMap writeCharacter ++ '"' :: ':' :: ' ' :: (write value ++ rest)) := by
    simp [writeString]
  rw [opened, readMembers, skipSpace_cons rfl]
  simp only [readString_writeString]
  rw [skipSpace_cons rfl]
  simp only [List.reverse_nil, List.nil_append, String.ofList_toList, readValue_space, read]
  rfl

theorem reads_members {member : String × Value} {members : Entries}
    (reads : ∀ entry ∈ member :: members, Reads (write entry.2) entry.2) {fuel : Nat}
    (enough : (writeMembers (member :: members)).length ≤ fuel) (done : Entries)
    (rest : List Char) :
    readMembers (fuel + 2) done (writeMembers (member :: members) ++ '\x7d' :: rest)
      = some (.table (done.reverse ++ member :: members), rest) := by
  induction members generalizing member done fuel with
  | nil =>
    obtain ⟨first, _⟩ := List.forall_mem_cons.mp reads
    obtain ⟨key, value⟩ := member
    have written : writeMembers [(key, value)]
        = writeString key.toList ++ ':' :: ' ' :: write value := rfl
    rw [written, List.length_append, List.length_cons, List.length_cons] at enough
    rw [written, List.append_assoc, List.cons_append, List.cons_append,
      readMembers_member (first fuel _ (show (write value).length ≤ fuel by omega) (by simp [Ends])),
      skipSpace_cons rfl]
    simp only [afterMember, List.reverse_cons]
  | cons next others ih =>
    obtain ⟨first, later⟩ := List.forall_mem_cons.mp reads
    obtain ⟨key, value⟩ := member
    have written : writeMembers ((key, value) :: next :: others)
        = writeString key.toList
          ++ ':' :: ' ' :: (write value ++ ',' :: ' ' :: writeMembers (next :: others)) := rfl
    rw [written] at enough
    simp only [List.length_append, List.length_cons] at enough
    obtain ⟨less, rfl⟩ := Nat.exists_eq_add_one.mpr (show 0 < fuel by omega)
    have whole := ih later (show (writeMembers (next :: others)).length ≤ less by omega)
      ((key, value) :: done)
    rw [written, List.append_assoc, List.cons_append, List.cons_append, List.append_assoc,
      readMembers_member
        (first _ _ (show (write value).length ≤ less + 1 by omega) (by simp [Ends]))]
    simpa [afterMember, skipSpace, isSpace, readMembers_space] using whole

theorem isBasic_items {items : List Value} (basic : ∀ item ∈ items, IsBasic (write item)) :
    IsBasic (writeItems items) := by
  induction items with
  | nil => simp [IsBasic, writeItems]
  | cons item others ih =>
    obtain ⟨first, later⟩ := List.forall_mem_cons.mp basic
    cases others with
    | nil => exact first
    | cons => exact first.separated (by decide) (ih later)

theorem isBasic_members {entries : Entries} (basic : ∀ entry ∈ entries, IsBasic (write entry.2)) :
    IsBasic (writeMembers entries) := by
  induction entries with
  | nil => simp [IsBasic, writeMembers]
  | cons entry others ih =>
    obtain ⟨first, later⟩ := List.forall_mem_cons.mp basic
    have key := isBasic_writeString entry.1.toList
    cases others with
    | nil => exact key.separated (by decide) first
    | cons => exact key.separated (by decide) (first.separated (by decide) (ih later))

end Values

/-- A value without floats and moments, which the notation holds as it is. -/
inductive Exact : Value → Prop
  | null : Exact .null
  | boolean (value : Bool) : Exact (.boolean value)
  | integer (value : Int) : Exact (.integer value)
  | text (value : String) : Exact (.text value)
  | array {items : List Value} : (∀ item ∈ items, Exact item) → Exact (.array items)
  | table {entries : Entries} : (∀ entry ∈ entries, Exact entry.2) → Exact (.table entries)

namespace Exact

variable {value : Value}

theorem begins (exact : Exact value) : Begins (write value) := by
  cases exact with
  | null => exact ⟨'n', _, rfl, rfl, by decide⟩
  | boolean flag => cases flag <;> exact ⟨_, _, rfl, rfl, by decide⟩
  | integer number =>
    obtain ⟨lead, rest, shown, numeral⟩ := begins_toString number
    exact ⟨lead, rest, shown, isSpace_numeral numeral, not_of_numeral numeral (by decide) rfl⟩
  | text => exact ⟨'"', _, rfl, rfl, by decide⟩
  | array => exact ⟨'[', _, rfl, rfl, by decide⟩
  | table => exact ⟨'\x7b', _, rfl, rfl, by decide⟩

theorem reads (exact : Exact value) : Reads (write value) value := by
  intro fuel rest enough ends
  induction exact generalizing fuel rest with
  | null => rfl
  | boolean flag => cases flag <;> rfl
  | integer number =>
    obtain ⟨lead, digits, shown, numeral⟩ := begins_toString number
    have read := readNumber_toString ends number
    rw [write]
    rw [shown] at read ⊢
    exact (readValue_number numeral fuel _).trans read
  | text text =>
    have opened : write (.text text) ++ rest
        = '"' :: (text.toList.flatMap writeCharacter ++ '"' :: rest) := by
      simp [write, writeString]
    rw [opened, readValue, skipSpace_cons rfl]
    simp [readString_writeString]
  | @array items exact ih =>
    rw [write, List.length_cons, List.length_append, List.length_singleton] at enough
    obtain ⟨less, rfl⟩ := Nat.exists_eq_add_of_le' (show 2 ≤ fuel by omega)
    rw [write, List.cons_append, List.append_assoc]
    cases items with
    | nil => rfl
    | cons item others =>
      have begins := ((exact item List.mem_cons_self).begins.items others).append (']' :: rest)
      rw [List.singleton_append, readValue_items begins]
      exact reads_items ih (by omega) [] rest
  | @table entries exact ih =>
    rw [write, List.length_cons, List.length_append, List.length_singleton] at enough
    obtain ⟨less, rfl⟩ := Nat.exists_eq_add_of_le' (show 2 ≤ fuel by omega)
    rw [write, List.cons_append, List.append_assoc]
    cases entries with
    | nil => rfl
    | cons entry others =>
      rw [List.singleton_append, readValue_members]
      exact reads_members ih (by omega) [] rest

theorem basic (exact : Exact value) : IsBasic (write value) := by
  induction exact with
  | null => simp [write, IsBasic]
  | boolean flag => cases flag <;> simp [write, IsBasic]
  | integer number => exact isBasic_toString number
  | text text => exact isBasic_writeString text.toList
  | array _ ih => exact .cons (by decide) ((isBasic_items ih).append (by simp [IsBasic]))
  | table _ ih => exact .cons (by decide) ((isBasic_members ih).append (by simp [IsBasic]))

theorem parse_write (exact : Exact value) : parse (write value) = some value := by
  have read := exact.reads (2 * (write value).length + 1) [] (by omega) (by simp [Ends])
  rw [List.append_nil] at read
  rw [parse, read]
  rfl

end Exact

end ColorMarkup.Json
