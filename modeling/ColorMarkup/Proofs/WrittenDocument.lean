import ColorMarkup.Proofs.WrittenSetting

/-!
Written documents read back: settings, headers, blank lines and comments. Reading a document does
what its lines say, one after another.
-/

namespace ColorMarkup.Toml

/-- A line of a document, as it is written. -/
inductive Line where
  | blank
  | comment (words : List Char)
  | boolean (key : String) (value : Bool)
  | string (key : String) (value : List Char)
  | header (name : String)

/-- Whether a character may stand in a comment. -/
def isQuiet (character : Char) : Bool :=
  character == '\t' || (0x20 ≤ character.toNat && character.toNat != 0x7f)

namespace Line

def write : Line → List Char
  | blank => ['\n']
  | comment words => '#' :: (words ++ ['\n'])
  | boolean key value => writeEntry key (writeBoolean value)
  | string key value => writeEntry key (writeString value)
  | header name => writeHeader name

def Sound : Line → Prop
  | blank => True
  | comment words => ∀ character ∈ words, isQuiet character = true
  | boolean key _ => Bare key
  | string key _ => Bare key
  | header name => Bare name

def IsRemark : Line → Prop
  | blank => True
  | comment _ => True
  | _ => False

def addTo (dialect : Dialect) (assembly : Assembly) : Line → Except Flaw Assembly
  | blank => .ok assembly
  | comment _ => .ok assembly
  | boolean key value => assembly.setValue [key] (.boolean value)
  | string key value => assembly.setValue [key] (.text (String.ofList value))
  | header name => (assembly.close dialect [name]).map (·.enter false [name])

theorem foldlM_remarks {dialect : Dialect} {lines : List Line}
    (remarks : ∀ line ∈ lines, line.IsRemark) (assembly : Assembly) :
    lines.foldlM (addTo dialect) assembly = .ok assembly := by
  induction lines with
  | nil => rfl
  | cons line rest ih =>
    have nothing : line.addTo dialect assembly = .ok assembly := by
      have remark := remarks line List.mem_cons_self
      cases line with
      | blank => rfl
      | comment words => rfl
      | boolean key value => exact remark.elim
      | string key value => exact remark.elim
      | header name => exact remark.elim
    rw [List.foldlM_cons, nothing]
    exact ih fun other member => remarks other (List.mem_cons_of_mem _ member)

end Line

theorem skipComment_quiet {words : List Char}
    (quiet : ∀ character ∈ words, isQuiet character = true) (rest : List Char) :
    skipComment (words ++ '\n' :: rest) = some ('\n' :: rest) := by
  have inLine : ∀ character ∈ words, (character != '\n') = true := by
    intro character member
    have known := quiet character member
    rw [bne_iff_ne]
    rintro rfl
    contradiction
  have taken : (words ++ '\n' :: rest).takeWhile (· != '\n') = words := by
    rw [List.takeWhile_append_of_pos inLine, List.takeWhile_cons_of_neg (by simp), List.append_nil]
  have dropped : (words ++ '\n' :: rest).dropWhile (· != '\n') = '\n' :: rest := by
    rw [List.dropWhile_append_of_pos inLine, List.dropWhile_cons_of_neg (by simp)]
  have allowed : words.all isQuiet = true := List.all_eq_true.mpr quiet
  unfold skipComment
  dsimp only
  rw [taken, dropped]
  exact if_pos allowed

section

variable {dialect : Dialect}

theorem readHeader_written {name : String} (bare : Bare name) (assembly : Assembly)
    (rest : List Char) :
    readHeader dialect false assembly (name.toList ++ ']' :: '\n' :: rest)
      = (assembly.close dialect [name]).map fun closed => (closed.enter false [name], rest) := by
  have nothing : ∀ character ∈ ([] : List Char), isSpace character = true := by simp
  have read : readKey dialect ((name.toList ++ ']' :: '\n' :: rest).length + 1)
      (name.toList ++ ']' :: '\n' :: rest) = .ok ([name], ']' :: '\n' :: rest) :=
    readKey_bare bare nothing (by decide) (by decide) _ _
  rw [readHeader, read]
  dsimp only
  cases assembly.close dialect [name] with
  | error flaw => rfl
  | ok closed =>
    simp only [closeHeader]
    rfl

variable {line : Line} {key name : String} {written : List Char} {value : Value}

theorem readStatements_entry (bare : Bare key) (reads : Reads dialect written value) (fuel : Nat)
    (assembly : Assembly) (rest : List Char) :
    readStatements dialect (fuel + 1) assembly (writeEntry key written ++ rest)
      = assembly.setValue [key] value >>= fun next => readStatements dialect fuel next rest := by
  have form : writeEntry key written ++ rest
      = key.toList ++ (' ' :: '=' :: ' ' :: (written ++ '\n' :: rest)) := by simp [writeEntry]
  have setting := readSetting_written bare reads assembly rest
  rw [readStatements]
  rw [form] at setting ⊢
  rw [skipSpace_bare bare]
  split
  · rename_i whole
    simp [bare.1] at whole
  -- a key begins with none of the marks of the other statements
  iterate 4
    · rename_i whole
      exact absurd whole (bare.append_ne (by decide) _ _)
  · rw [setting]
    cases assembly.setValue [key] value <;> rfl

theorem readStatements_header (bare : Bare name) (fuel : Nat) (assembly : Assembly)
    (rest : List Char) :
    readStatements dialect (fuel + 1) assembly (writeHeader name ++ rest)
      = (assembly.close dialect [name]).map (·.enter false [name])
          >>= fun next => readStatements dialect fuel next rest := by
  have form : writeHeader name ++ rest = '[' :: (name.toList ++ ']' :: '\n' :: rest) := by
    simp [writeHeader]
  have start : skipSpace ('[' :: (name.toList ++ ']' :: '\n' :: rest))
      = '[' :: (name.toList ++ ']' :: '\n' :: rest) := rfl
  rw [form, readStatements, start]
  split
  · contradiction
  · rename_i whole
    injection whole with mark
    contradiction
  · rename_i whole
    injection whole with mark
    contradiction
  · rename_i whole
    injection whole with _ tail
    exact absurd tail (bare.append_ne (by decide) _ _)
  · rename_i whole
    injection whole with _ tail
    rw [← tail, readHeader_written bare]
    cases assembly.close dialect [name] <;> rfl
  · rename_i plain
    exact absurd rfl (plain _)

theorem readStatements_write (sound : line.Sound) (fuel : Nat) (assembly : Assembly)
    (rest : List Char) :
    readStatements dialect (fuel + 1) assembly (line.write ++ rest)
      = line.addTo dialect assembly >>= fun next => readStatements dialect fuel next rest := by
  cases line with
  | blank =>
    have start : skipSpace ('\n' :: rest) = '\n' :: rest := rfl
    rw [Line.write, List.singleton_append, readStatements, start]
    rfl
  | comment words =>
    have form : (Line.comment words).write ++ rest = '#' :: (words ++ '\n' :: rest) := by
      simp [Line.write]
    have start : skipSpace ('#' :: (words ++ '\n' :: rest)) = '#' :: (words ++ '\n' :: rest) := rfl
    have ended : skipLine ('#' :: (words ++ '\n' :: rest)) = .ok rest := by
      rw [skipLine, start]
      simp only [skipComment_quiet sound]
      rfl
    rw [form, readStatements, start]
    simp only [ended]
    rfl
  | boolean key value =>
    exact readStatements_entry sound (reads_writeBoolean dialect value) fuel assembly rest
  | string key value =>
    exact readStatements_entry sound (reads_writeString dialect value) fuel assembly rest
  | header name => exact readStatements_header sound fuel assembly rest

theorem readStatements_lines {lines : List Line} (sound : ∀ line ∈ lines, line.Sound) {fuel : Nat}
    (enough : lines.length < fuel) (assembly : Assembly) :
    readStatements dialect fuel assembly (lines.flatMap Line.write)
      = lines.foldlM (Line.addTo dialect) assembly := by
  induction lines generalizing fuel assembly with
  | nil =>
    obtain ⟨fuel, rfl⟩ := Nat.exists_eq_add_of_lt enough
    rfl
  | cons line rest ih =>
    cases fuel with
    | zero => contradiction
    | succ fuel =>
      have shorter : rest.length < fuel := Nat.lt_of_succ_lt_succ enough
      rw [List.flatMap_cons, readStatements_write (sound line List.mem_cons_self),
        List.foldlM_cons]
      refine congrArg _ (funext fun next => ?_)
      exact ih (fun other member => sound other (List.mem_cons_of_mem _ member)) shorter next

theorem length_le_length_write (lines : List Line) :
    lines.length ≤ (lines.flatMap Line.write).length := by
  have filled (line : Line) : 1 ≤ line.write.length := by
    cases line <;> simp [Line.write, writeEntry, writeHeader] <;> omega
  induction lines with
  | nil => exact Nat.le_refl 0
  | cons line rest ih =>
    have first := filled line
    rw [List.flatMap_cons, List.length_append, List.length_cons]
    omega

/-- Parsing a written document does what its lines say, in turn. -/
theorem parse_lines {lines : List Line} (sound : ∀ line ∈ lines, line.Sound) :
    parse dialect (lines.flatMap Line.write)
      = lines.foldlM (Line.addTo dialect) {} >>= Assembly.finish dialect := by
  rw [parse, readStatements_lines sound (Nat.lt_succ_of_le (length_le_length_write lines))]
  cases lines.foldlM (Line.addTo dialect) {} <;> rfl

end

def IsLegible (text : List Char) : Prop :=
  ∀ character ∈ text, character = '\n' ∨ isQuiet character = true

theorem isLegible_append {first second : List Char} :
    IsLegible (first ++ second) ↔ IsLegible first ∧ IsLegible second :=
  List.forall_mem_append

theorem isQuiet_of_isPrintable {character : Char} (shown : Text.isPrintable character = true) :
    isQuiet character = true := by
  by_cases control : character.toNat < 0x20
  · rw [Text.not_isPrintable_of_control control] at shown
    contradiction
  by_cases delete : character.toNat = 0x7f
  · have hidden : Text.isPrintable character = false := by
      rw [eq_of_toNat delete]
      decide
    rw [hidden] at shown
    contradiction
  · simp only [isQuiet, bne_iff_ne, Bool.or_eq_true, Bool.and_eq_true, decide_eq_true_eq]
    exact .inr ⟨Nat.le_of_not_lt control, delete⟩

theorem Spelling.isQuiet {character : Char} {written : List Char}
    (spelling : Spelling character written) : written.all isQuiet = true := by
  cases spelling with
  | itself _ _ low notDelete => simp [Toml.isQuiet, low, notDelete]
  | @escape name known =>
    have names : escapes.all (fun escape => Toml.isQuiet escape.1) = true := by decide
    have quiet : Toml.isQuiet name = true := List.all_eq_true.mp names _ known
    have backslash : Toml.isQuiet '\\' = true := by decide
    simp [backslash, quiet]
  | number _ =>
    have backslash : Toml.isQuiet '\\' = true := by decide
    have letter : Toml.isQuiet 'u' = true := by decide
    have digits : ∀ digit ∈ Text.hex 4 character.toNat, Toml.isQuiet digit = true :=
      fun digit member => isQuiet_of_isPrintable (Text.isPrintable_of_mem_hex member)
    simpa [backslash, letter] using digits

theorem isQuiet_of_isBare {character : Char} (bare : isBare character = true) :
    isQuiet character = true := by
  have every : ∀ code < 128, isBare (Char.ofNat code) = true →
      isQuiet (Char.ofNat code) = true := by decide
  have known := every character.toNat (toNat_lt_of_isBare bare)
  rw [Char.ofNat_toNat] at known
  exact known bare

theorem isLegible_of_quiet {text : List Char} (quiet : text.all isQuiet = true) : IsLegible text :=
  fun character member => .inr (List.all_eq_true.mp quiet character member)

theorem isLegible_bare {key : String} (bare : Bare key) : IsLegible key.toList :=
  isLegible_of_quiet (List.all_eq_true.mpr fun character member =>
    isQuiet_of_isBare (bare.letters character member))

theorem isLegible_writeEntry {key : String} {written : List Char} (bare : Bare key)
    (legible : IsLegible written) : IsLegible (writeEntry key written) := by
  have sign : IsLegible [' ', '=', ' '] := isLegible_of_quiet (by decide)
  have lineEnd : IsLegible ['\n'] := by simp [IsLegible]
  exact isLegible_append.mpr ⟨isLegible_bare bare,
    isLegible_append.mpr ⟨sign, isLegible_append.mpr ⟨legible, lineEnd⟩⟩⟩

theorem isLegible_writeString (text : List Char) : IsLegible (writeString text) := by
  have mark : IsLegible ['"'] := isLegible_of_quiet (by decide)
  have inside : IsLegible (text.flatMap writeCharacter) := by
    refine isLegible_of_quiet (List.all_eq_true.mpr fun written member => ?_)
    obtain ⟨character, _, among⟩ := List.mem_flatMap.mp member
    exact List.all_eq_true.mp (spelling_writeCharacter character).isQuiet written among
  exact isLegible_append.mpr ⟨mark, isLegible_append.mpr ⟨inside, mark⟩⟩

theorem isLegible_write {line : Line} (sound : line.Sound) : IsLegible line.write := by
  have lineEnd : IsLegible ['\n'] := by simp [IsLegible]
  cases line with
  | blank => exact lineEnd
  | comment words =>
    have mark : IsLegible ['#'] := isLegible_of_quiet (by decide)
    have words := isLegible_of_quiet (List.all_eq_true.mpr sound)
    exact isLegible_append.mpr ⟨mark, isLegible_append.mpr ⟨words, lineEnd⟩⟩
  | boolean key value =>
    refine isLegible_writeEntry sound (isLegible_of_quiet ?_)
    cases value <;> decide
  | string key value => exact isLegible_writeEntry sound (isLegible_writeString value)
  | header name =>
    have opening : IsLegible ['['] := isLegible_of_quiet (by decide)
    have closing : IsLegible [']', '\n'] := by simp [IsLegible, isQuiet]
    exact isLegible_append.mpr ⟨opening, isLegible_append.mpr ⟨isLegible_bare sound, closing⟩⟩

theorem isLegible_lines {lines : List Line} (sound : ∀ line ∈ lines, line.Sound) :
    IsLegible (lines.flatMap Line.write) := by
  intro character member
  obtain ⟨line, among, inLine⟩ := List.mem_flatMap.mp member
  exact isLegible_write (sound line among) character inLine

end ColorMarkup.Toml
