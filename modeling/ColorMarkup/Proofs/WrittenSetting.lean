import ColorMarkup.Proofs.Trimming
import ColorMarkup.Toml.Document
import ColorMarkup.Toml.Writer

/-!
Written settings read back: strings with their escapes, booleans, and keys that need no quotation
marks.
-/

namespace ColorMarkup.Toml

theorem eq_of_toNat {character : Char} {code : Nat} (same : character.toNat = code) :
    character = Char.ofNat code := by
  rw [← same, Char.ofNat_toNat]

/-- The escapes that strings are written with, and what they stand for. -/
def escapes : List (Char × Char) :=
  [('"', '"'), ('\\', '\\'), ('n', '\n'), ('r', '\r'), ('t', '\t'), ('b', '\x08'), ('f', '\x0c')]

/-- How a character may be written: by itself, by an escape, or by its number. -/
inductive Spelling (character : Char) : List Char → Prop
  | itself : character ≠ '"' → character ≠ '\\' → 0x20 ≤ character.toNat →
      character.toNat ≠ 0x7f → Spelling character [character]
  | escape {name : Char} : (name, character) ∈ escapes → Spelling character ['\\', name]
  | number : character.toNat < 0x10000 →
      Spelling character ('\\' :: 'u' :: Text.hex 4 character.toNat)

theorem spelling_writeCharacter (character : Char) :
    Spelling character (writeCharacter character) := by
  unfold writeCharacter
  split
  · rename_i mark
    rcases mark with rfl | rfl <;> exact .escape (by decide)
  split
  · subst_vars
    exact .escape (by decide)
  split
  · subst_vars
    exact .escape (by decide)
  split
  · subst_vars
    exact .escape (by decide)
  split
  · rename_i code
    rw [eq_of_toNat code]
    exact .escape (by decide)
  split
  · rename_i code
    rw [eq_of_toNat code]
    exact .escape (by decide)
  split
  · exact .number (by omega)
  · rename_i special _ _ _ _ _ solid
    simp only [not_or] at special
    exact .itself special.1 special.2 (by omega) (by omega)

namespace Quotation

def basic (dialect : Dialect) : Quotation :=
  { dialect, mark := '"', multiline := false }

variable {dialect : Dialect} {done rest : List Char}

def continued : (width value number : Nat) → Nat
  | 0, value, _ => value
  | width + 1, value, number => continued width value (number / 16) * 16 + number % 16

theorem read_hex (quotation : Quotation) {width left : Nat} (more : width < left)
    (value number : Nat) (done rest : List Char) :
    quotation.read (.numbered left value) done (Text.hex width number ++ rest)
      = quotation.read (.numbered (left - width) (continued width value number)) done rest := by
  induction width generalizing number rest with
  | zero => rfl
  | succ width ih =>
    have digit := Json.hexValue?_hexDigit (Nat.mod_lt number (show 0 < 16 by decide))
    have notLast : left - width ≠ 1 := by omega
    have place : left - width - 1 = left - (width + 1) := by omega
    rw [Text.hex, List.append_assoc, ih (by omega), List.singleton_append, read]
    simp only [afterDigit, digit, if_neg notLast, place, continued]

theorem read_unicode (quotation : Quotation) {character : Char} (basic : character.toNat < 0x10000)
    (done rest : List Char) :
    quotation.read (.numbered 4 0) done (Text.hex 4 character.toNat ++ rest)
      = quotation.read .plain (character :: done) rest := by
  have digit := Json.hexValue?_hexDigit (Nat.mod_lt character.toNat (show 0 < 16 by decide))
  have number : continued 3 0 (character.toNat / 16) * 16 + character.toNat % 16
      = character.toNat := by
    simp only [continued]
    omega
  have scalar : scalar? character.toNat = some character := by
    have valid : character.toNat.isValidChar := character.valid
    unfold Nat.isValidChar at valid
    rw [scalar?, if_pos (by omega), Char.ofNat_toNat]
  rw [Text.hex, List.append_assoc, read_hex quotation (by decide), List.singleton_append, read]
  simp only [afterDigit, digit, number, scalar]
  rfl

theorem afterEscape_name {name meant : Char} (known : (name, meant) ∈ escapes)
    (done : List Char) :
    (basic dialect).afterEscape done name = some (.plain, meant :: done) := by
  simp only [escapes, List.mem_cons, List.not_mem_nil, or_false, Prod.mk.injEq] at known
  rcases known with ⟨rfl, rfl⟩ | ⟨rfl, rfl⟩ | ⟨rfl, rfl⟩ | ⟨rfl, rfl⟩ | ⟨rfl, rfl⟩ | ⟨rfl, rfl⟩
    | ⟨rfl, rfl⟩ <;> rfl

theorem read_spelling {character : Char} {written : List Char}
    (spelling : Spelling character written) (done rest : List Char) :
    (basic dialect).read .plain done (written ++ rest)
      = (basic dialect).read .plain (character :: done) rest := by
  have escaped : (basic dialect).afterPlain done '\\' = some (.escaped, done) := rfl
  cases spelling with
  | itself notMark notEscape low notDelete =>
    have allowed : (basic dialect).allows character = true := by
      simp only [allows]
      rw [if_neg (by omega), if_pos (by omega)]
    have differs : character ≠ (basic dialect).mark := notMark
    have plain : (basic dialect).afterPlain done character = some (.plain, character :: done) := by
      simp [afterPlain, differs, notEscape, allowed]
    simp only [List.singleton_append, read, plain]
  | escape known =>
    simp only [List.cons_append, List.nil_append, read, escaped, afterEscape_name known]
  | number small =>
    have unicode : (basic dialect).afterEscape done 'u' = some (.numbered 4 0, done) := rfl
    simp only [List.cons_append, read, escaped, unicode]
    exact read_unicode _ small done rest

theorem read_closing (done rest : List Char) :
    (basic dialect).read (.closing 1) done rest = some (done.reverse, rest) := by
  cases rest <;> rfl

theorem read_written (text done rest : List Char) :
    (basic dialect).read .plain done (text.flatMap writeCharacter ++ '"' :: rest)
      = some (done.reverse ++ text, rest) := by
  induction text generalizing done with
  | nil =>
    have closing : (basic dialect).afterPlain done '"' = some (.closing 1, done) := rfl
    simp only [List.flatMap_nil, List.nil_append, read, closing, read_closing, List.append_nil]
  | cons character text ih =>
    rw [List.flatMap_cons, List.append_assoc, read_spelling (spelling_writeCharacter character), ih]
    simp

end Quotation

theorem Spelling.exists_cons {character : Char} {written : List Char}
    (spelling : Spelling character written) :
    ∃ first more, written = first :: more ∧ first ≠ '"' := by
  cases spelling with
  | itself notMark => exact ⟨_, _, rfl, notMark⟩
  | escape => exact ⟨_, _, rfl, by decide⟩
  | number => exact ⟨_, _, rfl, by decide⟩

theorem readQuoted_written (dialect : Dialect) (text rest : List Char)
    (apart : ∀ more, rest ≠ '"' :: more) :
    readQuoted dialect '"' (text.flatMap writeCharacter ++ '"' :: rest)
      = some (false, text, rest) := by
  have single : (Quotation.basic dialect).read .plain []
      (text.flatMap writeCharacter ++ '"' :: rest) = some (text, rest) :=
    Quotation.read_written text [] rest
  unfold readQuoted
  dsimp only
  split
  · rename_i second third more whole
    have different : ¬(second = '"' ∧ third = '"') := by
      rintro ⟨rfl, rfl⟩
      cases text with
      | nil =>
        injection whole with _ follows
        exact apart more follows
      | cons character text =>
        rw [List.flatMap_cons, List.append_assoc] at whole
        obtain ⟨first, others, form, notMark⟩ := (spelling_writeCharacter character).exists_cons
        rw [form, List.cons_append] at whole
        injection whole with same
        exact notMark same
    rw [if_neg different]
    exact (congrArg (Option.map _) single).trans rfl
  · exact (congrArg (Option.map _) single).trans rfl

def Bare (key : String) : Prop :=
  key.toList ≠ [] ∧ key.toList.all isBare = true

instance (key : String) : Decidable (Bare key) :=
  inferInstanceAs (Decidable (_ ∧ _))

theorem Bare.letters {key : String} (bare : Bare key) :
    ∀ character ∈ key.toList, isBare character = true :=
  List.all_eq_true.mp bare.2

theorem toNat_lt_of_isBare {character : Char} (bare : isBare character = true) :
    character.toNat < 128 := by
  simp only [isBare, Text.isPlainDigit, Bool.or_eq_true, Bool.and_eq_true, decide_eq_true_eq,
    beq_iff_eq] at bare
  rcases bare with (((⟨_, upper⟩ | ⟨_, upper⟩) | ⟨_, upper⟩) | rfl) | rfl
  · exact Nat.lt_of_le_of_lt upper (by decide)
  · exact Nat.lt_of_le_of_lt upper (by decide)
  · exact Nat.lt_of_le_of_lt upper (by decide)
  · decide
  · decide

theorem not_isBlank_of_isBare {character : Char} (bare : isBare character = true) :
    Text.isBlank character = false := by
  have every : ∀ code < 128, isBare (Char.ofNat code) = true →
      Text.isBlank (Char.ofNat code) = false := by decide
  have known := every character.toNat (toNat_lt_of_isBare bare)
  rw [Char.ofNat_toNat] at known
  exact known bare

theorem isBlank_of_isSpace {character : Char} (space : isSpace character = true) :
    Text.isBlank character = true := by
  simp only [isSpace, Bool.or_eq_true, beq_iff_eq] at space
  rcases space with rfl | rfl <;> decide

theorem isSpace_eq_false_of_isBare {character : Char} (bare : isBare character = true) :
    isSpace character = false := by
  cases space : isSpace character with
  | false => rfl
  | true =>
    have solid := not_isBlank_of_isBare bare
    rw [isBlank_of_isSpace space] at solid
    contradiction

theorem trim_bare {key space : List Char} (bare : ∀ character ∈ key, isBare character = true)
    (blank : ∀ character ∈ space, isSpace character = true) :
    Text.trim (key ++ space) = key := by
  have solid : Text.Solid key := fun character member => not_isBlank_of_isBare (bare character member)
  have trailing : Text.Blank space := fun character member =>
    isBlank_of_isSpace (blank character member)
  rw [Text.trim_append _ trailing, Text.trim_solid solid]

theorem skipSpace_of_not_space {character : Char} {rest : List Char}
    (solid : isSpace character = false) : skipSpace (character :: rest) = character :: rest := by
  simp [skipSpace, solid]

theorem Bare.exists_cons {key : String} (bare : Bare key) :
    ∃ first more, key.toList = first :: more ∧ isBare first = true := by
  obtain ⟨first, more, whole⟩ := List.exists_cons_of_ne_nil bare.1
  exact ⟨first, more, whole, bare.letters first (whole ▸ List.mem_cons_self)⟩

theorem Bare.append_ne {key : String} (bare : Bare key) {mark : Char}
    (foreign : isBare mark = false) (rest tail : List Char) :
    key.toList ++ rest ≠ mark :: tail := by
  obtain ⟨first, more, whole, letter⟩ := bare.exists_cons
  rw [whole]
  intro same
  injection same with equal
  rw [equal, foreign] at letter
  contradiction

section

variable {dialect : Dialect} {key : String} {space : List Char} {stop : Char}

theorem skipSpace_bare (bare : Bare key) (rest : List Char) :
    skipSpace (key.toList ++ rest) = key.toList ++ rest := by
  obtain ⟨first, more, whole, letter⟩ := bare.exists_cons
  rw [whole]
  exact skipSpace_of_not_space (isSpace_eq_false_of_isBare letter)

theorem readKeyPart_bare (bare : Bare key) (blank : ∀ character ∈ space, isSpace character = true)
    (stops : (isBare stop || isSpace stop) = false) (rest : List Char) :
    readKeyPart dialect (key.toList ++ (space ++ stop :: rest)) = .ok (key, stop :: rest) := by
  have letters := bare.letters
  have allowed : ∀ character ∈ key.toList ++ space,
      (isBare character || isSpace character) = true := by
    intro character member
    rcases List.mem_append.mp member with inKey | inSpace
    · simp [letters character inKey]
    · simp [blank character inSpace]
  have taken : (key.toList ++ (space ++ stop :: rest)).takeWhile
      (fun character => isBare character || isSpace character) = key.toList ++ space := by
    rw [← List.append_assoc, List.takeWhile_append_of_pos allowed,
      List.takeWhile_cons_of_neg (by simp [stops]), List.append_nil]
  have dropped : (key.toList ++ (space ++ stop :: rest)).dropWhile
      (fun character => isBare character || isSpace character) = stop :: rest := by
    rw [← List.append_assoc, List.dropWhile_append_of_pos allowed,
      List.dropWhile_cons_of_neg (by simp [stops])]
  have noSpace : key.toList.any isSpace = false := by
    rw [List.any_eq_false]
    intro character member
    simp [isSpace_eq_false_of_isBare (letters character member)]
  have filled : key.toList.isEmpty = false := by simpa using bare.1
  unfold readKeyPart
  dsimp only
  rw [skipSpace_bare bare]
  split
  · rename_i whole
    exact absurd whole (bare.append_ne (by decide) _ _)
  · rename_i whole
    exact absurd whole (bare.append_ne (by decide) _ _)
  · rw [taken, dropped, trim_bare letters blank, noSpace, filled]
    simp

theorem readKey_bare (bare : Bare key) (blank : ∀ character ∈ space, isSpace character = true)
    (stops : (isBare stop || isSpace stop) = false) (last : stop ≠ '.') (fuel : Nat)
    (rest : List Char) :
    readKey dialect (fuel + 1) (key.toList ++ (space ++ stop :: rest))
      = .ok ([key], stop :: rest) := by
  rw [readKey, readKeyPart_bare bare blank stops]
  split
  · contradiction
  · rename_i whole
    injection whole with pair
    injection pair with _ tail
    injection tail with same
    exact absurd same last
  · rename_i whole
    injection whole with pair
    injection pair with part tail
    rw [part, tail]

end

/-- What is written for a value and is read back as it, up to the end of the line. -/
def Reads (dialect : Dialect) (written : List Char) (value : Value) : Prop :=
  ∀ fuel rest, readValue dialect (fuel + 1) (skipSpace (written ++ '\n' :: rest))
    = .ok (value, '\n' :: rest)

theorem reads_writeBoolean (dialect : Dialect) (value : Bool) :
    Reads dialect (writeBoolean value) (.boolean value) := by
  intro fuel rest
  cases value <;> rfl

theorem reads_writeString (dialect : Dialect) (text : List Char) :
    Reads dialect (writeString text) (.text (String.ofList text)) := by
  intro fuel rest
  have apart : ∀ more, '\n' :: rest ≠ '"' :: more := by simp
  have start : skipSpace (writeString text ++ '\n' :: rest)
      = '"' :: (text.flatMap writeCharacter ++ '"' :: '\n' :: rest) := by
    simp [writeString, skipSpace, isSpace]
  rw [start, readValue, readString, readQuoted_written dialect text _ apart]

theorem readSetting_written {dialect : Dialect} {key : String} {written : List Char}
    {value : Value} (bare : Bare key) (reads : Reads dialect written value) (assembly : Assembly)
    (rest : List Char) :
    readSetting dialect assembly (writeEntry key written ++ rest)
      = (assembly.setValue [key] value).map (·, rest) := by
  have form : writeEntry key written ++ rest
      = key.toList ++ ([' '] ++ '=' :: ' ' :: (written ++ '\n' :: rest)) := by
    simp [writeEntry]
  have space : ∀ character ∈ [' '], isSpace character = true := by simp [isSpace]
  have separated : skipSpace (' ' :: (written ++ '\n' :: rest))
      = skipSpace (written ++ '\n' :: rest) := rfl
  have ended : skipLine ('\n' :: rest) = .ok rest := rfl
  rw [form, readSetting, readKey_bare bare space (by decide) (by decide)]
  simp only [separated]
  rw [reads]
  simp only [ended]

end ColorMarkup.Toml
