import Mathlib.Logic.Equiv.Basic
import ColorMarkup.Proofs.Boundary
import ColorMarkup.Proofs.SignSets

/-!
Other signs are other names and nothing more. If the characters of a text and its signs are exchanged
for others, a scan does the same with the characters that it writes exchanged.
-/

namespace ColorMarkup

/-- An exchange of characters that leaves the plain digits alone. -/
structure Renaming where
  exchange : Equiv.Perm Char
  digit : ∀ character, Text.isPlainDigit character → exchange character = character

namespace Renaming

instance : CoeFun Renaming fun _ => Char → Char where
  coe names := names.exchange

variable (names : Renaming)

theorem injective {first second : Char} (same : names first = names second) :
    first = second :=
  names.exchange.injective same

@[simp] theorem isPlainDigit (character : Char) :
    Text.isPlainDigit (names character) = Text.isPlainDigit character := by
  cases before : Text.isPlainDigit character with
  | true => rw [names.digit character before, before]
  | false =>
    -- A digit is only exchanged for itself, so the character would have been that digit.
    cases after : Text.isPlainDigit (names character) with
    | false => rfl
    | true =>
      have same := names.injective (names.digit _ after)
      rw [same, before] at after
      contradiction

theorem map_digits {digits : List Char} (plain : ∀ digit ∈ digits, Text.isPlainDigit digit) :
    digits.map names = digits := by
  induction digits with
  | nil => rfl
  | cons digit rest ih =>
    obtain ⟨first, others⟩ := List.forall_mem_cons.mp plain
    rw [List.map_cons, names.digit digit first, ih others]

theorem mem_map {text : List Char} {sign : Char} : names sign ∈ text.map names ↔ sign ∈ text := by
  rw [List.mem_map]
  constructor
  · rintro ⟨character, member, same⟩
    rwa [← names.injective same]
  · intro member
    exact ⟨sign, member, rfl⟩

def swap (first second : Char) (firstSign : Text.isPlainDigit first = false)
    (secondSign : Text.isPlainDigit second = false) : Renaming where
  exchange := Equiv.swap first second
  digit := by
    intro character plain
    apply Equiv.swap_apply_of_ne_of_ne
    · rintro rfl
      simp [firstSign] at plain
    · rintro rfl
      simp [secondSign] at plain

end Renaming

def Signs.renamed (signs : Signs) (names : Renaming) : Signs where
  toPerSign := signs.toPerSign.map names
  distinct := by
    have whole : (signs.toPerSign.map names).toList = signs.toPerSign.toList.map names := rfl
    rw [whole]
    exact List.pairwise_map.mpr
      (signs.distinct.imp fun different same => different (names.injective same))
  noDigit := by
    intro sign member
    obtain ⟨before, listed, rfl⟩ := List.mem_map.mp (show sign ∈ signs.toPerSign.toList.map names
      from member)
    rw [names.isPlainDigit]
    exact signs.noDigit before listed

def Construct.renamed (names : Renaming) : Construct → Construct
  | ordinary character => ordinary (names character)
  | finalStop => finalStop
  | doubledStop => doubledStop
  | segment text => segment (text.map names)
  | openSegment text => openSegment (text.map names)
  | singleDigit slot digit => singleDigit slot digit
  | bracketed slot digits => bracketed slot digits
  | loneSign slot => loneSign slot

def BracketFault.renamed (names : Renaming) : BracketFault → BracketFault
  | unterminated => unterminated
  | notNumber content => notNumber (content.map names)

def Event.renamed (names : Renaming) : Event → Event
  | write piece => write (piece.map names)
  | recolor slot color => recolor slot color

def BracketsHold (signs : Signs) (text : List Char) (place : Nat) (content : List Char) : Prop :=
  signs.closeBracket ∉ content ∧ ∃ slot rest, text.drop place
    = signs.directiveSign slot :: signs.openBracket :: (content ++ signs.closeBracket :: rest)

/-- The errors of a text and of the renamed text: only what is shown of brackets differs. -/
structure FormatError.Corresponds (names : Renaming) (signs : Signs) (text : List Char)
    (error other : FormatError) : Prop where
  kind : other.kind = error.kind
  position : other.position = error.position
  index : other.index = error.index
  detail : error.kind ≠ .invalidArgument → other.detail = error.detail
  content : error.kind = .invalidArgument → ∃ (place : Nat) (content : List Char),
    error.position = place ∧ BracketsHold signs text place content
      ∧ error.detail = String.ofList (FormatError.shorten content)
      ∧ other.detail = String.ofList (FormatError.shorten (content.map names))

variable {names : Renaming} {signs : Signs} {colors : List Color} {text rest : List Char}
  {construct : Construct} {error other : FormatError}

theorem directiveSign_renamed (slot : Slot) :
    (signs.renamed names).directiveSign slot = names (signs.directiveSign slot) := by
  cases slot <;> rfl

theorem introduces_renamed :
    (signs.renamed names).Introduces (rest.map names) ↔ signs.Introduces rest := by
  cases rest with
  | nil => exact Iff.rfl
  | cons second inside =>
    have bracket : names second = (signs.renamed names).openBracket
        ↔ second = signs.openBracket := names.exchange.injective.eq_iff
    simp only [List.map_cons, Signs.Introduces, names.isPlainDigit, bracket, ne_eq,
      List.map_eq_nil_iff]

theorem Construct.Heads.renamed (heads : construct.Heads signs text rest) (names : Renaming) :
    (construct.renamed names).Heads (signs.renamed names) (text.map names)
      (rest.map names) := by
  cases heads with
  | ordinary notFore notBack notStop =>
    exact .ordinary (fun same => notFore (names.injective same))
      (fun same => notBack (names.injective same))
      (fun same => notStop (names.injective same))
  | finalStop => exact .finalStop
  | doubledStop => exact .doubledStop
  | segment filled absent =>
    simp only [List.map_cons, List.map_append]
    exact .segment (by simpa using filled) (fun member => absent (names.mem_map.mp member))
  | openSegment filled absent =>
    exact .openSegment (by simpa using filled) (fun member => absent (names.mem_map.mp member))
  | singleDigit plain =>
    simp only [List.map_cons, ← directiveSign_renamed, names.digit _ plain]
    exact .singleDigit plain
  | bracketed filled plain =>
    simp only [List.map_cons, List.map_append, ← directiveSign_renamed, names.map_digits plain]
    exact .bracketed filled plain
  | loneSign introducesNot =>
    simp only [List.map_cons, ← directiveSign_renamed]
    exact .loneSign (fun introduces => introducesNot (introduces_renamed.mp introduces))

theorem BracketFault.Heads.renamed {fault : BracketFault} (faulty : fault.Heads signs text)
    (names : Renaming) : (fault.renamed names).Heads (signs.renamed names) (text.map names) := by
  cases faulty with
  | unterminated filled unclosed =>
    simp only [List.map_cons, ← directiveSign_renamed]
    exact .unterminated (by simpa using filled)
      (fun member => unclosed (names.mem_map.mp member))
  | notNumber unclosed noNumber =>
    simp only [List.map_cons, List.map_append, ← directiveSign_renamed]
    refine .notNumber (fun member => unclosed (names.mem_map.mp member)) ?_
    simpa [names.isPlainDigit] using noNumber

theorem Construct.missing?_renamed (names : Renaming) (signs : Signs) (colors : List Color)
    (construct : Construct) : (construct.renamed names).missing? (signs.renamed names) colors
      = construct.missing? signs colors := by
  cases construct <;> rfl

theorem Construct.events_renamed :
    (construct.renamed names).events (signs.renamed names) colors
      = (construct.events signs colors).map (Event.renamed names) := by
  have literal : ∀ written : List Char, Event.ofText (written.map names)
      = (Event.ofText written).map (Event.renamed names) := by
    intro written
    simp [Event.ofText, Event.renamed]
  cases construct with
  | ordinary character => exact literal [character]
  | finalStop => exact literal [signs.stop]
  | doubledStop => exact literal [signs.stop]
  | segment written => exact literal written
  | openSegment written => exact literal written
  | singleDigit slot digit =>
    simp [events, Construct.renamed, meaning, Event.renamed]
  | bracketed slot digits =>
    simp [events, Construct.renamed, meaning, Event.renamed]
  | loneSign slot =>
    have sign := literal [signs.directiveSign slot]
    simpa [events, Construct.renamed, meaning, directiveSign_renamed] using sign

theorem Event.textOf_renamed (events : List Event) :
    textOf (events.map (renamed names)) = (textOf events).map names := by
  induction events with
  | nil => rfl
  | cons event others ih =>
    cases event <;> simpa [textOf, renamed] using ih

theorem Event.changesOf_renamed (events : List Event) :
    changesOf (events.map (renamed names)) = changesOf events := by
  induction events with
  | nil => rfl
  | cons event others ih =>
    cases event <;> simpa [changesOf, renamed, isWrite] using ih

namespace FormatError.Corresponds

theorem same (kind : error.kind ≠ .invalidArgument) : Corresponds names signs text error error where
  kind := rfl
  position := rfl
  index := rfl
  detail _ := rfl
  content invalid := absurd invalid kind

theorem of_faulty {fault : BracketFault} (faulty : fault.Heads signs text) :
    Corresponds names signs text (fault.toError 0) ((fault.renamed names).toError 0) := by
  cases faulty with
  | unterminated _ _ => exact same (by simp [BracketFault.toError])
  | @notNumber slot content rest unclosed _ =>
    refine ⟨rfl, rfl, rfl, fun valid => absurd rfl valid, fun _ => ?_⟩
    exact ⟨0, content, rfl, ⟨unclosed, slot, rest, rfl⟩, rfl, rfl⟩

theorem preceded (corresponds : Corresponds names signs rest error other)
    (heads : construct.Heads signs text rest) :
    Corresponds names signs text (error.shift construct.width) (other.shift construct.width) where
  kind := corresponds.kind
  position := by
    simp only [shift, corresponds.position]
  index := corresponds.index
  detail := corresponds.detail
  content := by
    intro invalid
    obtain ⟨place, content, position, ⟨unclosed, slot, after, left⟩, shown, otherShown⟩ :=
      corresponds.content invalid
    refine ⟨construct.width + place, content, ?_, ⟨unclosed, slot, after, ?_⟩, shown, otherShown⟩
    · simp [shift, position, Int.add_comm]
    · rw [heads.drop, left]

theorem map_preceded {first second : Option FormatError}
    (errors : Option.Rel (Corresponds names signs rest) first second)
    (heads : construct.Heads signs text rest) :
    Option.Rel (Corresponds names signs text) (first.map (FormatError.shift construct.width))
      (second.map (FormatError.shift construct.width)) := by
  cases errors with
  | none => exact .none
  | some corresponds => exact .some (corresponds.preceded heads)

theorem isNone_eq {first second : Option FormatError}
    (errors : Option.Rel (Corresponds names signs text) first second) :
    second.isNone = first.isNone := by
  cases errors <;> rfl

end FormatError.Corresponds

theorem Script.ofText_renamed (names : Renaming) (signs : Signs) (colors : List Color)
    (text : List Char) :
    (ofText (signs.renamed names) colors (text.map names)).events
        = (ofText signs colors text).events.map (Event.renamed names)
      ∧ Option.Rel (FormatError.Corresponds names signs text) (ofText signs colors text).error
          (ofText (signs.renamed names) colors (text.map names)).error := by
  induction text using reading_induction signs with
  | nil =>
    simp only [List.map_nil, ofText_nil, true_and]
    exact .none
  | @more construct text rest heads ih =>
    have renamed := heads.renamed names
    have alike := Construct.missing?_renamed names signs colors construct
    cases missing : construct.missing? signs colors with
    | some error =>
      obtain ⟨_, _, _, refused⟩ := Construct.missing?_eq_some_iff.mp missing
      -- Directives have the same digits in both texts, so they are refused with the same error.
      have kind : error.kind ≠ .invalidArgument := by
        rw [(resolveDigits_error refused).2]
        decide
      rw [ofText_of_missing heads missing, ofText_of_missing renamed (alike.trans missing)]
      exact ⟨rfl, .some (.same kind)⟩
    | none =>
      rw [ofText_of_heads heads missing, ofText_of_heads renamed (alike.trans missing)]
      obtain ⟨events, errors⟩ := ih
      constructor
      · simp [Script.preceded, Construct.events_renamed, events]
      · have width : (construct.renamed names).width = construct.width := by
          cases construct <;> simp [Construct.renamed, Construct.width]
        simp only [Script.preceded, width]
        exact FormatError.Corresponds.map_preceded errors heads
  | faulty faulty =>
    rw [ofText_of_faulty faulty, ofText_of_faulty (faulty.renamed names)]
    exact ⟨rfl, .some (.of_faulty faulty)⟩

/-- Renaming the signs of a set gives a set that is accepted, and with it the renamed text is scanned
as the text is with the set itself: the same changes between the renamed characters, the same counts
and the same error, but for the characters shown of brackets that hold no number. -/
theorem renamed_signs_scan_alike (names : Renaming) (signs : Signs) (colors : List Color)
    (text : List Char) :
    (∀ role, (signs.renamed names).get role = names (signs.get role))
      ∧ Signs.ofValues (signs.toPerSign.map fun sign => Value.text (String.singleton (names sign)))
          = .ok (signs.renamed names)
      ∧ (record (signs.renamed names) colors (text.map names)).state.events
          = (record signs colors text).state.events.map (Event.renamed names)
      ∧ ∃ outcome other, (record signs colors text).result = .ok outcome
        ∧ (record (signs.renamed names) colors (text.map names)).result = .ok other
        ∧ other.written = outcome.written ∧ other.directives = outcome.directives
        ∧ other.ok = outcome.ok
        ∧ Option.Rel (FormatError.Corresponds names signs text) outcome.error other.error := by
  obtain ⟨events, result⟩ := record_eq signs colors text
  obtain ⟨otherEvents, otherResult⟩ := record_eq (signs.renamed names) colors (text.map names)
  obtain ⟨renamed, errors⟩ := Script.ofText_renamed names signs colors text
  have texts : Signs.AreTexts
      (signs.toPerSign.map fun sign => Value.text (String.singleton (names sign)))
      (signs.renamed names) := fun role => by cases role <;> rfl
  refine ⟨fun role => PerSign.get_map _ _ role, Signs.ofValues_eq_ok.mpr texts, ?_,
    _, _, result, otherResult, ?_, ?_, ?_, errors⟩
  · rw [events, otherEvents, renamed]
  · simp [Script.outcome, renamed, Event.textOf_renamed]
  · simp [Script.outcome, renamed, Event.changesOf_renamed]
  · exact FormatError.Corresponds.isNone_eq errors

/-- The stop sign and a letter change places, so the letter escapes and the sign is written. -/
theorem renamed_signs_scan_alike_swapped :
    let names := Renaming.swap '~' 'x' (by decide) (by decide)
    (record (Signs.standard.renamed names) [.red]
        ['x', '~', '%', 'x', '&', '0', '%', '\x7b', '~', '\x7d']).state.events
      = [.write ['~'], .write ['%'], .recolor .background (some .red)] := by
  intro names
  obtain ⟨_, _, renamed, _⟩ := renamed_signs_scan_alike names Signs.standard [.red]
    ['~', 'x', '%', '~', '&', '0', '%', '\x7b', 'x', '\x7d']
  have events : (record Signs.standard [.red]
      ['~', 'x', '%', '~', '&', '0', '%', '\x7b', 'x', '\x7d']).state.events
        = [.write ['x'], .write ['%'], .recolor .background (some .red)] := by
    rw [(record_eq _ _ _).1]
    decide +kernel
  rw [events] at renamed
  exact renamed

end ColorMarkup
