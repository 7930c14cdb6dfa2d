import ColorMarkup.Text.Blank

/-!
Trimming of texts. A text is its trimmed form between blanks, and nothing but the blanks at its ends
is lost; where no blanks are left, trimming keeps beginnings.
-/

namespace ColorMarkup.Text

def Blank (text : List Char) : Prop :=
  ∀ character ∈ text, isBlank character = true

def Solid (text : List Char) : Prop :=
  ∀ character ∈ text, isBlank character = false

instance (text : List Char) : Decidable (Blank text) :=
  List.decidableBAll (fun character => isBlank character = true) text

instance (text : List Char) : Decidable (Solid text) :=
  List.decidableBAll (fun character => isBlank character = false) text

variable {before after start text : List Char}

theorem Blank.reverse (blank : Blank text) : Blank text.reverse := fun character member =>
  blank character (List.mem_reverse.mp member)

theorem Solid.reverse (solid : Solid text) : Solid text.reverse := fun character member =>
  solid character (List.mem_reverse.mp member)

theorem Solid.of_prefix (solid : Solid text) (beginning : start <+: text) : Solid start :=
  fun character member => solid character (beginning.subset member)

theorem trimStart_append (blank : Blank before) (text : List Char) :
    trimStart (before ++ text) = trimStart text :=
  List.dropWhile_append_of_pos blank

theorem trimStart_blank (blank : Blank text) : trimStart text = [] := by
  have dropped := trimStart_append blank []
  rwa [List.append_nil] at dropped

theorem exists_trimStart (text : List Char) :
    ∃ before, Blank before ∧ text = before ++ trimStart text := by
  refine ⟨text.takeWhile isBlank, ?_, List.takeWhile_append_dropWhile.symm⟩
  exact List.all_eq_true.mp List.all_takeWhile

theorem trim_append (text : List Char) (blank : Blank after) : trim (text ++ after) = trim text := by
  have opened : trimStart (text ++ after) = trimStart text ++ after ∨
      trimStart (text ++ after) = [] ∧ trimStart text = [] := by
    unfold trimStart
    rw [List.dropWhile_append]
    split
    · rename_i empty
      exact .inr ⟨trimStart_blank blank, List.isEmpty_iff.mp empty⟩
    · exact .inl rfl
  rcases opened with same | ⟨nothing, empty⟩
  · rw [trim, trim, same, List.reverse_append, trimStart_append blank.reverse]
  · rw [trim, trim, nothing, empty]

theorem trim_padded (blank : Blank before) (text : List Char) (more : Blank after) :
    trim (before ++ text ++ after) = trim text := by
  rw [trim_append _ more, trim, trimStart_append blank, trim]

theorem trim_blank (blank : Blank text) : trim text = [] := by
  rw [trim, trimStart_blank blank]
  rfl

theorem trim_solid (solid : Solid text) : trim text = text := by
  rw [trim, trimStart_solid solid, trimStart_solid solid.reverse, List.reverse_reverse]

theorem exists_padding (text : List Char) :
    ∃ before after, Blank before ∧ Blank after ∧ text = before ++ trim text ++ after := by
  obtain ⟨before, blank, opened⟩ := exists_trimStart text
  obtain ⟨after, more, closed⟩ := exists_trimStart (trimStart text).reverse
  refine ⟨before, after.reverse, blank, more.reverse, ?_⟩
  have ended := congrArg List.reverse closed
  rw [List.reverse_reverse, List.reverse_append] at ended
  rw [List.append_assoc, trim, ← ended]
  exact opened

theorem trim_map {change : Char → Char} (keeps : ∀ character, isBlank (change character)
    = isBlank character) (text : List Char) : trim (text.map change) = (trim text).map change := by
  have opened (text : List Char) : trimStart (text.map change) = (trimStart text).map change := by
    have same : isBlank ∘ change = isBlank := funext keeps
    rw [trimStart, List.dropWhile_map, same, trimStart]
  rw [trim, opened, ← List.map_reverse, opened, ← List.map_reverse, trim]

theorem trim_prefix (beginning : start <+: text) (solid : Solid (trim text)) :
    trim start <+: trim text := by
  obtain ⟨before, after, blank, more, padded⟩ := exists_padding text
  obtain ⟨rest, whole⟩ := beginning
  rw [padded, List.append_assoc] at whole
  rcases List.append_eq_append_iff.mp whole with ⟨last, short, _⟩ | ⟨inside, rfl, left⟩
  · -- the beginning ends among the blanks in front
    have nothing : Blank start := fun character member => by
      refine blank character ?_
      rw [short]
      exact List.mem_append_left last member
    rw [trim_blank nothing]
    exact List.nil_prefix
  rw [trim, trimStart_append blank, ← trim]
  rcases List.append_eq_append_iff.mp left with ⟨last, rfl, ends⟩ | ⟨last, same, _⟩
  · -- it ends among the blanks behind
    have closing : Blank last := fun character member => by
      refine more character ?_
      rw [ends]
      exact List.mem_append_left rest member
    have same : trim (trim text ++ last) = trim text := by
      rw [trim_append _ closing, trim_solid solid]
    exact ⟨[], (List.append_nil _).trans same⟩
  · have beginning : inside <+: trim text := ⟨last, same.symm⟩
    rwa [trim_solid (solid.of_prefix beginning)]

end ColorMarkup.Text
