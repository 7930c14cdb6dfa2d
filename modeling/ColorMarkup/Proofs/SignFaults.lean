import ColorMarkup.Proofs.Layer
import ColorMarkup.Proofs.SignSets

/-!
Which values make a set of signs, and what is reported of others. The roles are gone through in their
order, and the first one whose value is no single character, is a digit or is taken already is
reported; a character that is taken is so by one role only.
-/

namespace ColorMarkup

namespace Signs

section Values

variable {ν ε : Type} [SignValue ν ε]

def textOf? (values : PerSign ν) (role : SignRole) : Option String :=
  SignValue.text? (values.get role)

/-- Values of some roles that could stand in one set: single characters, no digits, no two equal. -/
structure UsableOn (values : PerSign ν) (roles : List SignRole) : Prop where
  character : ∀ role ∈ roles, ∃ sign, textOf? values role = some (String.singleton sign)
    ∧ Text.isPlainDigit sign = false
  distinct : ∀ first ∈ roles, ∀ second ∈ roles, textOf? values first = textOf? values second →
    first = second

section Checks

variable {values : PerSign ν} {before after roles : List SignRole} {role : SignRole}
  {seen : List (SignRole × Char)} {fault : SignRefusal ε} {sign : Char}

theorem UsableOn.nil (values : PerSign ν) : UsableOn values [] where
  character _ member := absurd member List.not_mem_nil
  distinct _ member := absurd member List.not_mem_nil

/-- The characters that were accepted before, under their roles. -/
structure Tracks (values : PerSign ν) (before : List SignRole)
    (seen : List (SignRole × Char)) : Prop where
  roles : seen.map Prod.fst = before
  values : ∀ entry ∈ seen, textOf? values entry.1 = some (String.singleton entry.2)

namespace Tracks

theorem nil (values : PerSign ν) : Tracks values [] [] where
  roles := rfl
  values _ member := absurd member List.not_mem_nil

end Tracks

end Checks

end Values

end Signs

namespace SignFault

def roles : SignFault → List SignRole
  | notCharacter role _ => [role]
  | digit role _ => [role]
  | shared earlier role _ => [earlier, role]

end SignFault

namespace Signs

variable {ν ε : Type} [SignValue ν ε]

def entries (signs : Signs) : List (String × ν) :=
  signs.toTable.map fun entry => (entry.1, SignValue.ofText (String.singleton entry.2))

end Signs

end ColorMarkup
