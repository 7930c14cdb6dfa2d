import ColorMarkup.Proofs.Concatenation
import ColorMarkup.Proofs.Truncation

/-!
The places of a text where a construct, a faulty bracket or the end of the text begins. A scan goes
on at such a place as it would at the start of a text, unless it has failed before.
-/

namespace ColorMarkup

/-- The constructs of a text, one after the other, lead up to a place. -/
def Boundary (signs : Signs) (text : List Char) (place : Nat) : Prop :=
  place ≤ text.length ∧ ∃ before, Splits signs text before (text.drop place)

variable {signs : Signs} {colors : List Color} {text rest : List Char} {construct : Construct}
  {before : List Construct} {place inner : Nat}

theorem Construct.Heads.drop (heads : construct.Heads signs text rest) (count : Nat) :
    text.drop (construct.width + count) = rest.drop count :=
  (heads.take_add count).2

theorem Splits.length_eq (splits : Splits signs text before rest) :
    text.length = (before.flatMap (Construct.source signs)).length + rest.length := by
  rw [← splits.flatMap_source, List.length_append]

theorem Splits.missing?_eq_none (bounded : colors.length ≤ longestList)
    (splits : Splits signs text before rest)
    (supplied : ∀ construct ∈ before, construct.Supplied colors) :
    ∀ construct ∈ before, construct.missing? signs colors = none := by
  induction splits with
  | done => simp
  | more heads _ ih =>
    obtain ⟨first, others⟩ := List.forall_mem_cons.mp supplied
    exact List.forall_mem_cons.mpr
      ⟨(Construct.missing?_eq_none_iff bounded heads).mpr first, ih others⟩

namespace Boundary

theorem zero (signs : Signs) (text : List Char) : Boundary signs text 0 :=
  ⟨Nat.zero_le _, [], .done⟩

theorem of_splits (splits : Splits signs text before rest) :
    Boundary signs text (before.flatMap (Construct.source signs)).length := by
  have length := splits.length_eq
  refine ⟨by omega, before, ?_⟩
  rw [(splits.take_drop length).2]
  exact splits

theorem of_rest (heads : construct.Heads signs text rest) (boundary : Boundary signs rest inner) :
    Boundary signs text (construct.width + inner) := by
  obtain ⟨bound, before, splits⟩ := boundary
  have length := heads.length_eq
  refine ⟨by omega, construct :: before, ?_⟩
  rw [heads.drop]
  exact .more heads splits

theorem split (boundary : Boundary signs text place) : ∃ before,
    Splits signs text before (text.drop place)
      ∧ (before.flatMap (Construct.source signs)).length = place := by
  obtain ⟨bound, before, splits⟩ := boundary
  have length := splits.length_eq
  rw [List.length_drop] at length
  exact ⟨before, splits, by omega⟩

theorem cases_of_heads (heads : construct.Heads signs text rest)
    (boundary : Boundary signs text place) :
    place = 0 ∨ ∃ inner, place = construct.width + inner ∧ Boundary signs rest inner := by
  obtain ⟨before, splits, width⟩ := boundary.split
  cases before with
  | nil => exact .inl width.symm
  | cons first others =>
    right
    generalize left : text.drop place = after at splits
    cases splits with
    | more firstHeads tail =>
      obtain ⟨rfl, rfl⟩ := heads.unique firstHeads
      refine ⟨(others.flatMap (Construct.source signs)).length, ?_, of_splits tail⟩
      rw [← width, List.flatMap_cons, List.length_append, Construct.length_source]

theorem not_inside {after : List Char} (splits : Splits signs text before rest)
    (heads : construct.Heads signs rest after) (boundary : Boundary signs text place) :
    place ≤ (before.flatMap (Construct.source signs)).length
      ∨ (before.flatMap (Construct.source signs)).length + construct.width ≤ place := by
  induction splits generalizing place with
  | done =>
    rcases boundary.cases_of_heads heads with first | ⟨inner, later, _⟩
    · exact .inl (by omega)
    · exact .inr (by simp only [List.flatMap_nil, List.length_nil]; omega)
  | more firstHeads _ ih =>
    simp only [List.flatMap_cons, List.length_append, Construct.length_source]
    rcases boundary.cases_of_heads firstHeads with first | ⟨inner, later, tail⟩
    · exact .inl (by omega)
    · rcases ih heads tail with early | late
      · exact .inl (by omega)
      · exact .inr (by omega)

end Boundary

namespace Script

def andThen (script next : Script) : Script :=
  match script.error with
  | some _ => script
  | none => script.followed next

theorem preceded_andThen (script next : Script) :
    (script.preceded signs colors construct).andThen next
      = (script.andThen next).preceded signs colors construct := by
  cases stopped : script.error with
  | some error => simp [andThen, preceded, stopped]
  | none =>
    have goesOn : (script.preceded signs colors construct).error = none := by
      simp [preceded, stopped]
    simp only [andThen, goesOn, stopped]
    exact preceded_followed construct script next

theorem ofText_of_splits (colors : List Color) (splits : Splits signs text before rest) :
    ofText signs colors text
      = (ofConstructs signs colors none before).andThen (ofText signs colors rest) := by
  induction splits with
  | done => exact (followed_of_nothing _).symm
  | @more construct _ _ _ _ heads _ ih =>
    simp only [ofConstructs]
    cases missing : construct.missing? signs colors with
    | some error => exact ofText_of_missing heads missing
    | none =>
      rw [ofText_of_heads heads missing, ih]
      exact (preceded_andThen _ _).symm

theorem ofConstructs_supplied
    (supplied : ∀ construct ∈ before, construct.missing? signs colors = none) :
    (ofConstructs signs colors none before).error = none
      ∧ (ofConstructs signs colors none before).events
          = before.flatMap (Construct.events signs colors) := by
  induction before with
  | nil => exact ⟨rfl, rfl⟩
  | cons first others ih =>
    obtain ⟨present, rest⟩ := List.forall_mem_cons.mp supplied
    obtain ⟨ended, events⟩ := ih rest
    simp [ofConstructs, present, preceded, ended, events]

theorem reach_ofConstructs (ended : (ofConstructs signs colors none before).error = none) :
    (ofConstructs signs colors none before).reach
      = (before.flatMap (Construct.source signs)).length := by
  induction before with
  | nil => rfl
  | cons first others ih =>
    simp only [ofConstructs] at ended ⊢
    cases missing : first.missing? signs colors with
    | some error => simp [missing, failed] at ended
    | none =>
      simp only [missing, preceded, Option.map_eq_none_iff] at ended
      simp [preceded, ih ended]

theorem ofText_reached (bounded : colors.length ≤ longestList)
    (splits : Splits signs text before rest)
    (supplied : ∀ construct ∈ before, construct.Supplied colors) :
    (ofText signs colors text).events
        = before.flatMap (Construct.events signs colors) ++ (ofText signs colors rest).events
      ∧ (ofText signs colors text).error = (ofText signs colors rest).error.map
          (FormatError.shift (before.flatMap (Construct.source signs)).length) := by
  obtain ⟨ended, played⟩ := ofConstructs_supplied (splits.missing?_eq_none bounded supplied)
  rw [ofText_of_splits colors splits, andThen, ended, ← reach_ofConstructs ended, ← played]
  exact ⟨rfl, rfl⟩

theorem position_ofConstructs {error : FormatError}
    (stopped : (ofConstructs signs colors none before).error = some error) :
    0 ≤ error.position ∧ error.position < (before.flatMap (Construct.source signs)).length := by
  induction before generalizing error with
  | nil => simp [ofConstructs] at stopped
  | cons first others ih =>
    have positive := first.width_pos
    simp only [List.flatMap_cons, List.length_append, Construct.length_source]
    simp only [ofConstructs] at stopped
    cases missing : first.missing? signs colors with
    | some refused =>
      simp only [missing, failed, Option.some.injEq] at stopped
      rw [← stopped, Construct.position_of_missing missing]
      omega
    | none =>
      simp only [missing, preceded, Option.map_eq_some_iff] at stopped
      obtain ⟨later, found, rfl⟩ := stopped
      have bounds := ih found
      simp only [FormatError.shift]
      omega

end Script

end ColorMarkup
