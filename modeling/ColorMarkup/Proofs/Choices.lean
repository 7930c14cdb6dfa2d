import Mathlib.Data.List.Forall2
import Mathlib.Data.List.Nodup
import ColorMarkup.Cli.Mode
import ColorMarkup.Proofs.Tables
import ColorMarkup.Proofs.Trimming

/-!
Options chosen by name, and the completion of names. A text names an option if it is its name with
letters in any case, dashes for underscores and blanks around it, and then completion offers the
option for every beginning of the text.
-/

namespace ColorMarkup

namespace Text

theorem startsWith_iff {text start : List Char} : startsWith text start = true ↔ start <+: text := by
  rw [startsWith, Option.isSome_iff_exists]
  constructor
  · rintro ⟨rest, found⟩
    exact ⟨rest, (dropStart?_eq_some found).symm⟩
  · rintro ⟨rest, rfl⟩
    exact ⟨rest, dropStart?_append start rest⟩

end Text

namespace Cli.Choice

/-- How a character of a name may be written: in either case, and the dash for the underscore. The
Kelvin sign is a capital letter too. -/
inductive Spells : Char → Char → Prop
  | letter (written : Char) : Spells written written.toLower
  | dash : Spells '-' '_'
  | kelvin : Spells '\u212a' 'k'

/-- A text that is a name, as far as case, dashes and the blanks around it go. -/
inductive Names (name : List Char) : List Char → Prop
  | padded {before core after} : Text.Blank before → Text.Blank after →
      List.Forall₂ Spells core name → Names name (before ++ core ++ after)

/-- Basic letters that differ in case, or the dash and the underscore. -/
inductive Variant : Char → Char → Prop
  | letter {first second} : first.toLower = second.toLower → Variant first second
  | dash : Variant '-' '_'
  | underscore : Variant '_' '-'

def fold (character : Char) : Char :=
  joinDash (Text.lowerOf character)

def Settled (name : List Char) : Prop :=
  ∀ character ∈ name, fold character = character

instance (name : List Char) : Decidable (Settled name) :=
  List.decidableBAll (fun character => fold character = character) name

section Characters

theorem not_upper_of_beyond {character : Char} (beyond : 128 ≤ character.toNat) :
    ¬('A' ≤ character ∧ character ≤ 'Z') := by
  rintro ⟨_, upper⟩
  have last : character.toNat ≤ 90 := upper
  omega

theorem toLower_of_beyond {character : Char} (beyond : 128 ≤ character.toNat) :
    character.toLower = character :=
  dif_neg (not_upper_of_beyond beyond)

theorem fold_of_beyond {character : Char} (beyond : 128 ≤ character.toNat) :
    fold character = if character = '\u212a' then 'k' else character := by
  rw [fold, Text.lowerOf, if_neg (not_upper_of_beyond beyond)]
  by_cases kelvin : character = '\u212a'
  · subst kelvin
    rfl
  · have other : character.toNat ≠ 0x212a := fun same => kelvin (Char.toNat_inj.mp same)
    have noDash : character ≠ '-' := by
      rintro rfl
      contradiction
    rw [if_neg other, if_neg kelvin, joinDash, if_neg noDash]

theorem fold_eq (character : Char) : fold character =
    if character = '-' then '_' else if character = '\u212a' then 'k' else character.toLower := by
  induction character using Text.of_basic_and_beyond with
  | basic code low => decide +revert
  | beyond character beyond =>
    have noDash : character ≠ '-' := by
      rintro rfl
      contradiction
    rw [fold_of_beyond beyond, if_neg noDash, toLower_of_beyond beyond]

theorem fold_toLower (character : Char) : fold character.toLower = fold character := by
  induction character using Text.of_basic_and_beyond with
  | basic code low => decide +revert
  | beyond character beyond => rw [toLower_of_beyond beyond]

theorem isBlank_fold (character : Char) :
    Text.isBlank (fold character) = Text.isBlank character := by
  induction character using Text.of_basic_and_beyond with
  | basic code low => decide +revert
  | beyond character beyond =>
    rw [fold_of_beyond beyond]
    split
    · rename_i kelvin
      subst kelvin
      decide
    · rfl

theorem spells_fold (character : Char) : Spells character (fold character) := by
  rw [fold_eq]
  split
  · rename_i dash
    subst dash
    exact .dash
  split
  · rename_i kelvin
    subst kelvin
    exact .kelvin
  · exact .letter character

theorem fold_of_spells {written meant : Char} (spells : Spells written meant)
    (settled : fold meant = meant) : fold written = meant := by
  cases spells with
  | letter => rwa [fold_toLower] at settled
  | dash => decide
  | kelvin => decide

theorem fold_of_variant {first second : Char} (variant : Variant first second) :
    fold first = fold second := by
  cases variant with
  | letter same => rw [← fold_toLower, same, fold_toLower]
  | dash => decide
  | underscore => decide

end Characters

section Texts

variable {name text other : List Char}

theorem normalize_eq_map (text : List Char) : normalize text = (Text.trim text).map fold := by
  rw [normalize, Text.lower, List.map_map]
  rfl

theorem normalize_eq_trim (text : List Char) : normalize text = Text.trim (text.map fold) := by
  rw [normalize_eq_map, Text.trim_map isBlank_fold]

theorem map_fold_of_spells (spelled : List.Forall₂ Spells text name) (settled : Settled name) :
    text.map fold = name := by
  induction spelled with
  | nil => rfl
  | cons spells _ ih =>
    obtain ⟨first, others⟩ := List.forall_mem_cons.mp settled
    rw [List.map_cons, fold_of_spells spells first, ih others]

theorem map_fold_of_variant (variants : List.Forall₂ Variant text other) :
    text.map fold = other.map fold := by
  induction variants with
  | nil => rfl
  | cons variant _ ih => rw [List.map_cons, List.map_cons, fold_of_variant variant, ih]

theorem spelled_fold (text : List Char) : List.Forall₂ Spells text (text.map fold) := by
  rw [List.forall₂_map_right_iff, List.forall₂_same]
  exact fun character _ => spells_fold character

theorem names_normalize (text : List Char) : Names (normalize text) text := by
  obtain ⟨before, after, blank, more, padded⟩ := Text.exists_padding text
  rw [normalize_eq_map]
  generalize Text.trim text = core at padded ⊢
  subst padded
  exact .padded blank more (spelled_fold core)

theorem normalize_padded {before after : List Char} (blank : Text.Blank before) (text : List Char)
    (more : Text.Blank after) : normalize (before ++ text ++ after) = normalize text := by
  rw [normalize_eq_map, Text.trim_padded blank text more, ← normalize_eq_map]

theorem normalize_of_names (named : Names name text) (settled : Settled name)
    (solid : Text.Solid name) : normalize text = name := by
  obtain ⟨blank, more, spelled⟩ := named
  rw [normalize_padded blank _ more, normalize_eq_trim, map_fold_of_spells spelled settled,
    Text.trim_solid solid]

theorem normalize_of_variants (variants : List.Forall₂ Variant text other) :
    normalize text = normalize other := by
  rw [normalize_eq_trim, map_fold_of_variant variants, ← normalize_eq_trim]

theorem normalize_prefix {start : List Char} (beginning : start <+: text)
    (solid : Text.Solid (normalize text)) : normalize start <+: normalize text := by
  rw [normalize_eq_trim] at solid
  rw [normalize_eq_trim, normalize_eq_trim]
  exact Text.trim_prefix (beginning.map fold) solid

end Texts

/-- Names that are compared as they stand: in small letters, without dashes and blanks. -/
structure Proper {α : Type} (choice : Choice α) : Prop where
  settled : ∀ name ∈ choice.names, Settled name.toList
  solid : ∀ name ∈ choice.names, Text.Solid name.toList
  distinct : choice.names.Nodup

section Choosing

variable {α : Type} {choice : Choice α} {option : α} {text other start : List Char}

theorem mem_names (member : option ∈ choice.options) : choice.name option ∈ choice.names :=
  List.mem_map_of_mem member

theorem find?_congr (same : normalize text = normalize other) :
    choice.find? text = choice.find? other := by
  rw [find?, find?, same]

theorem mem_completions_iff {name : String} : name ∈ choice.completions start
    ↔ name ∈ choice.names ∧ normalize start <+: normalize name.toList := by
  rw [completions, List.mem_filter, Text.startsWith_iff]

variable (proper : choice.Proper)
include proper

theorem normalize_name (member : option ∈ choice.options) :
    normalize (choice.name option).toList = (choice.name option).toList := by
  have settled := proper.settled _ (mem_names member)
  have solid := proper.solid _ (mem_names member)
  have same : (choice.name option).toList.map fold = (choice.name option).toList :=
    (List.map_congr_left settled).trans (List.map_id' _)
  rw [normalize_eq_trim, same, Text.trim_solid solid]

theorem distinct_normalize :
    (choice.options.map fun option => normalize (choice.name option).toList).Nodup := by
  have same : (choice.options.map fun option => normalize (choice.name option).toList)
      = choice.names.map String.toList := by
    rw [names, List.map_map]
    exact List.map_congr_left fun option member => normalize_name proper member
  rw [same]
  exact proper.distinct.map fun _ _ equal => String.toList_inj.mp equal

theorem find?_eq_some_iff_normalize : choice.find? text = some option
    ↔ option ∈ choice.options ∧ normalize text = (choice.name option).toList := by
  rw [find?, find?_key_eq_some_iff (distinct_normalize proper)]
  refine and_congr_right fun member => ?_
  rw [normalize_name proper member]
  exact eq_comm

theorem find?_eq_some_iff : choice.find? text = some option
    ↔ option ∈ choice.options ∧ Names (choice.name option).toList text := by
  rw [find?_eq_some_iff_normalize proper]
  refine and_congr_right fun member => ⟨?_, ?_⟩
  · intro same
    rw [← same]
    exact names_normalize text
  · intro named
    exact normalize_of_names named (proper.settled _ (mem_names member))
      (proper.solid _ (mem_names member))

theorem mem_completions_of_prefix (found : choice.find? text = some option)
    (beginning : start <+: text) : choice.name option ∈ choice.completions start := by
  obtain ⟨member, same⟩ := (find?_eq_some_iff_normalize proper).mp found
  refine mem_completions_iff.mpr ⟨mem_names member, ?_⟩
  have solid : Text.Solid (normalize text) := by
    rw [same]
    exact proper.solid _ (mem_names member)
  have begun := normalize_prefix beginning solid
  rwa [same, ← normalize_name proper member] at begun

end Choosing

theorem proper_color : colorChoice.Proper where
  settled := by decide +kernel
  solid := by decide +kernel
  distinct := by decide +kernel

theorem proper_mode : ColorMode.choice.Proper where
  settled := by decide
  solid := by decide
  distinct := by decide

theorem proper_format : OutputFormat.choice.Proper where
  settled := by decide
  solid := by decide
  distinct := by decide

/-- The parameters that are chosen by name. -/
inductive Parameter : {α : Type} → Choice α → Prop
  | color : Parameter colorChoice
  | mode : Parameter ColorMode.choice
  | format : Parameter OutputFormat.choice

theorem Parameter.proper {α : Type} {choice : Choice α} (parameter : Parameter choice) :
    choice.Proper := by
  cases parameter with
  | color => exact proper_color
  | mode => exact proper_mode
  | format => exact proper_format

/-- A parameter takes exactly the texts that name one of its options, in whatever case, with either
dash and between any blanks, and no text names two. Completion offers names of options, each once and
in their order, and an option for every beginning of a text that is taken for it. -/
theorem choices_complete_what_they_take {α : Type} {choice : Choice α}
    (parameter : Parameter choice) :
    (∀ text option, choice.find? text = some option
        ↔ option ∈ choice.options ∧ Names (choice.name option).toList text)
      ∧ (∀ text, ∀ first ∈ choice.options, ∀ second ∈ choice.options,
          Names (choice.name first).toList text → Names (choice.name second).toList text →
            first = second)
      ∧ (∀ text other before after option, choice.find? text = some option →
          List.Forall₂ Variant text other → Text.Blank before → Text.Blank after →
            choice.find? (before ++ other ++ after) = some option)
      ∧ (∀ start, (choice.completions start).Sublist choice.names
          ∧ (choice.completions start).Nodup
          ∧ ∀ name ∈ choice.completions start, ∃ option ∈ choice.options,
              choice.name option = name ∧ choice.find? name.toList = some option)
      ∧ ∀ text option start, choice.find? text = some option → start <+: text →
          choice.name option ∈ choice.completions start := by
  have proper := parameter.proper
  refine ⟨fun text option => find?_eq_some_iff proper, ?_, ?_, ?_, ?_⟩
  · intro text first listed second other named alsoNamed
    have found := (find?_eq_some_iff proper).mpr ⟨listed, named⟩
    have alsoFound := (find?_eq_some_iff proper).mpr ⟨other, alsoNamed⟩
    exact Option.some.inj (found.symm.trans alsoFound)
  · intro text other before after option found variants blank more
    rw [← found]
    refine find?_congr ?_
    rw [normalize_padded blank other more, normalize_of_variants variants]
  · intro start
    have offered : (choice.completions start).Sublist choice.names := List.filter_sublist
    refine ⟨offered, proper.distinct.sublist offered, ?_⟩
    intro name member
    obtain ⟨option, listed, rfl⟩ := List.mem_map.mp (offered.subset member)
    exact ⟨option, listed, rfl,
      (find?_eq_some_iff_normalize proper).mpr ⟨listed, normalize_name proper listed⟩⟩
  · intro text option start
    exact mem_completions_of_prefix proper

/-- Capital letters, a dash, the Kelvin sign and an ideographic space. -/
theorem choices_complete_what_they_take_kelvin :
    let text := ['\u3000', 'B', 'r', 'i', 'g', 'h', 't', '-', 'B', 'L', 'A', 'C', '\u212a', '\t']
    colorChoice.find? text = some .brightBlack
      ∧ "bright_black" ∈ colorChoice.completions (text.take 9)
      ∧ "bright_black" ∈ colorChoice.completions text := by
  intro text
  obtain ⟨takes, -, -, -, completes⟩ := choices_complete_what_they_take .color
  have core : List.Forall₂ Spells
      ['B', 'r', 'i', 'g', 'h', 't', '-', 'B', 'L', 'A', 'C', '\u212a'] "bright_black".toList := by
    refine .cons (.letter 'B') (.cons (.letter 'r') (.cons (.letter 'i') (.cons (.letter 'g')
      (.cons (.letter 'h') (.cons (.letter 't') (.cons .dash (.cons (.letter 'B')
      (.cons (.letter 'L') (.cons (.letter 'A') (.cons (.letter 'C') (.cons .kelvin .nil)))))))))))
  have before : Text.Blank ['\u3000'] := by decide
  have after : Text.Blank ['\t'] := by decide
  have named : Names (colorChoice.name .brightBlack).toList text := .padded before after core
  have found := (takes text .brightBlack).mpr ⟨by decide, named⟩
  exact ⟨found, completes text _ _ found (List.take_prefix 9 text),
    completes text _ _ found (List.prefix_refl text)⟩

end Cli.Choice

end ColorMarkup
