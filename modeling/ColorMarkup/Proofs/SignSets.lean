import ColorMarkup.Config.Basic

/-!
Which settings of the signs are usable: exactly those that are the characters of a usable set. A
draft freezes to a configuration exactly if its signs are.
-/

namespace ColorMarkup

namespace Signs

section Values

variable {ν ε : Type} [SignValue ν ε]

theorem character?_eq_some {value : ν} {sign : Char} :
    character? value = some sign ↔ SignValue.text? value = some (String.singleton sign) := by
  unfold character?
  cases SignValue.text? value with
  | none => simp
  | some text =>
    simp only [Option.map_some, Option.some.injEq]
    constructor
    · intro found
      split at found
      · rename_i character alone
        injection found with same
        injection alone with alone
        subst same
        rw [← String.ofList_toList (s := text), alone]
        rfl
      · contradiction
    · rintro rfl
      simp

theorem text_of_checkSign {seen : List (SignRole × Char)} {role : SignRole} {value : ν}
    {sign : Char} (accepted : checkSign seen role value = .ok sign) :
    SignValue.text? value = some (String.singleton sign) := by
  unfold checkSign at accepted
  split at accepted
  · contradiction
  · rename_i character found
    split at accepted
    · contradiction
    · split at accepted
      · contradiction
      · injection accepted with same
        subst same
        exact character?_eq_some.mp found

theorem checkSign_text {seen : List (SignRole × Char)} {value : ν} {sign : Char}
    (single : SignValue.text? value = some (String.singleton sign))
    (noDigit : Text.isPlainDigit sign = false) (unseen : ∀ earlier ∈ seen, earlier.2 ≠ sign)
    (role : SignRole) : checkSign seen role value = .ok sign := by
  have missing : (seen.find? fun earlier => earlier.2 == sign) = none := by
    rw [List.find?_eq_none]
    intro earlier member
    simpa using unseen earlier member
  simp [checkSign, character?_eq_some.mpr single, noDigit, missing]

def AreTexts (values : PerSign ν) (signs : Signs) : Prop :=
  ∀ role, SignValue.text? (values.get role) = some (String.singleton (signs.get role))

theorem areTexts_of_ofValues {values : PerSign ν} {signs : Signs}
    (accepted : ofValues values = .ok signs) : AreTexts values signs := by
  unfold ofValues at accepted
  split at accepted
  · contradiction
  rename_i foreCheck
  split at accepted
  · contradiction
  rename_i backCheck
  split at accepted
  · contradiction
  rename_i stopCheck
  split at accepted
  · contradiction
  rename_i openCheck
  split at accepted
  · contradiction
  rename_i closeCheck
  injection accepted with same
  subst same
  intro role
  cases role with
  | fore => exact text_of_checkSign foreCheck
  | back => exact text_of_checkSign backCheck
  | stop => exact text_of_checkSign stopCheck
  | openBracket => exact text_of_checkSign openCheck
  | closeBracket => exact text_of_checkSign closeCheck

end Values

theorem get_injective (signs : Signs) {first second : SignRole}
    (same : signs.get first = signs.get second) : first = second := by
  have distinct := signs.distinct
  simp only [PerSign.toList, List.nodup_cons, List.mem_cons, List.not_mem_nil, or_false, not_or]
    at distinct
  cases first <;> cases second <;> simp_all [PerSign.get]

section Values

variable {ν ε : Type} [SignValue ν ε] {values : PerSign ν} {signs first second : Signs}

theorem AreTexts.checkSign (texts : AreTexts values signs) (seen : List SignRole) (role : SignRole)
    (fresh : role ∉ seen) :
    checkSign (seen.map fun earlier => (earlier, signs.get earlier)) role (values.get role)
      = .ok (signs.get role) := by
  have member : signs.get role ∈ signs.toPerSign.toList := by
    rw [PerSign.toList_eq_map_get]
    exact List.mem_map_of_mem (SignRole.mem_all role)
  refine checkSign_text (texts role) (signs.noDigit _ member) ?_ role
  intro earlier listed same
  obtain ⟨other, place, rfl⟩ := List.mem_map.mp listed
  exact fresh (signs.get_injective same ▸ place)

theorem AreTexts.exists_ofValues (texts : AreTexts values signs) :
    ∃ accepted, ofValues values = .ok accepted := by
  have fore := texts.checkSign [] .fore (by decide)
  have back := texts.checkSign [.fore] .back (by decide)
  have stop := texts.checkSign [.fore, .back] .stop (by decide)
  have openBracket := texts.checkSign [.fore, .back, .stop] .openBracket (by decide)
  have closeBracket :=
    texts.checkSign [.fore, .back, .stop, .openBracket] .closeBracket (by decide)
  -- each check gives back the sign of the set, so the next one is made behind the same signs
  cases outcome : ofValues values with
  | ok accepted => exact ⟨accepted, rfl⟩
  | error fault =>
    unfold ofValues at outcome
    split at outcome
    · rename_i check
      cases fore.symm.trans check
    rename_i check
    cases fore.symm.trans check
    split at outcome
    · rename_i check
      cases back.symm.trans check
    rename_i check
    cases back.symm.trans check
    split at outcome
    · rename_i check
      cases stop.symm.trans check
    rename_i check
    cases stop.symm.trans check
    split at outcome
    · rename_i check
      cases openBracket.symm.trans check
    rename_i check
    cases openBracket.symm.trans check
    split at outcome
    · rename_i check
      cases closeBracket.symm.trans check
    contradiction

theorem AreTexts.unique (texts : AreTexts values first) (also : AreTexts values second) :
    first = second := by
  have alike : first.toPerSign = second.toPerSign := by
    refine PerSign.ext_get fun role => ?_
    have shown := Option.some.inj ((texts role).symm.trans (also role))
    simpa using congrArg String.toList shown
  cases first
  cases second
  congr

theorem ofValues_eq_ok : ofValues values = .ok signs ↔ AreTexts values signs := by
  constructor
  · exact areTexts_of_ofValues
  · intro texts
    obtain ⟨accepted, passes⟩ := texts.exists_ofValues
    rw [passes, (areTexts_of_ofValues passes).unique texts]

end Values

end Signs

namespace Draft

variable {draft : Draft}

theorem areTexts_iff {signs : Signs} :
    Signs.AreTexts draft.signs signs
      ↔ ∀ role, draft.signs.get role = String.singleton (signs.get role) :=
  forall_congr' fun _ => Option.some_inj

theorem freeze_eq_ok {config : Config} :
    draft.freeze = .ok config
      ↔ (∀ role, draft.signs.get role = String.singleton (config.signs.get role))
        ∧ draft.restoreDefaults = config.restoreDefaults
        ∧ draft.newline = config.newline
        ∧ draft.sources = config.sources := by
  rw [← areTexts_iff, ← Signs.ofValues_eq_ok, freeze]
  cases checked : Signs.ofValues draft.signs with
  | error fault =>
    constructor
    · intro frozen
      contradiction
    · rintro ⟨usable, _⟩
      contradiction
  | ok signs =>
    constructor
    · intro frozen
      injection frozen with same
      subst same
      exact ⟨rfl, rfl, rfl, rfl⟩
    · rintro ⟨usable, restoring, ending, sources⟩
      injection usable with same
      subst same
      simp [restoring, ending, sources]

end Draft

end ColorMarkup
