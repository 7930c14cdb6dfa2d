import ColorMarkup.Config.Merge

/-!
Which values a message can show: those in which no integer has too many digits.
-/

namespace ColorMarkup

namespace Value

/-- An integer stands in a value, at whatever depth. -/
inductive Holds (number : Int) : Value → Prop
  | integer : Holds number (.integer number)
  | item {items : List Value} {item : Value} : item ∈ items → Holds number item →
      Holds number (.array items)
  | entry {entries : Entries} {entry : String × Value} : entry ∈ entries → Holds number entry.2 →
      Holds number (.table entries)

/-- No integer in a value has more than four thousand three hundred digits. -/
def Showable (value : Value) : Prop :=
  ∀ number, Holds number value → number.natAbs < Nat.pow 10 4300

theorem showable_integer {number : Int} :
    (integer number).Showable ↔ number.natAbs < Nat.pow 10 4300 := by
  constructor
  · exact fun showable => showable number .integer
  · rintro short _ ⟨⟩
    exact short

theorem showable_array {items : List Value} :
    (array items).Showable ↔ ∀ item ∈ items, item.Showable := by
  constructor
  · exact fun showable item member number holds => showable number (.item member holds)
  · rintro each _ ⟨⟩
    rename_i item holds member
    exact each item member _ holds

theorem showable_table {entries : Entries} :
    (table entries).Showable ↔ ∀ entry ∈ entries, entry.2.Showable := by
  constructor
  · exact fun showable entry member number holds => showable number (.entry member holds)
  · rintro each _ ⟨⟩
    rename_i entry holds member
    exact each entry member _ holds

mutual

theorem isShowable_iff (value : Value) : value.isShowable = true ↔ value.Showable := by
  cases value with
  | integer number =>
    rw [showable_integer, isShowable, Text.numeralLimit, decide_eq_true_iff]
  | array items =>
    rw [showable_array, isShowable]
    exact areShowable_iff items
  | table entries =>
    rw [showable_table, isShowable]
    exact areEntriesShowable_iff entries
  | _ =>
    exact iff_of_true rfl fun _ holds => by cases holds

theorem areShowable_iff (items : List Value) :
    areShowable items = true ↔ ∀ item ∈ items, item.Showable := by
  cases items with
  | nil => simp [areShowable]
  | cons item rest =>
    rw [areShowable, Bool.and_eq_true, isShowable_iff item, areShowable_iff rest,
      List.forall_mem_cons]

theorem areEntriesShowable_iff (entries : List (String × Value)) :
    areEntriesShowable entries = true ↔ ∀ entry ∈ entries, entry.2.Showable := by
  cases entries with
  | nil => simp [areEntriesShowable]
  | cons entry rest =>
    obtain ⟨key, value⟩ := entry
    rw [areEntriesShowable, Bool.and_eq_true, isShowable_iff value, areEntriesShowable_iff rest,
      List.forall_mem_cons]

end

theorem shown_of_showable {value : Value} (showable : value.Showable) :
    value.shown = .ok value.display :=
  if_pos (value.isShowable_iff.mpr showable)

theorem shown_of_not_showable {value : Value} (long : ¬value.Showable) :
    value.shown = .error .tooLong :=
  if_neg (mt value.isShowable_iff.mp long)

end Value

/-- What is reported of a value of a wrong type: a fault that shows the value, unless that fails. -/
inductive Tells (fault : String → ConfigFault) (value : Value) : MergeFault → Prop
  | shown : value.Showable → Tells fault value (.config (fault value.display))
  | unshown : ¬value.Showable → Tells fault value (.unshown .tooLong)

theorem tells_iff {fault : String → ConfigFault} {value : Value} {reported : MergeFault} :
    MergeFault.ofValue fault value = reported ↔ Tells fault value reported := by
  by_cases showable : value.Showable
  · rw [MergeFault.ofValue, Value.shown_of_showable showable]
    constructor
    · rintro rfl
      exact .shown showable
    · rintro (_ | long)
      · rfl
      · contradiction
  · rw [MergeFault.ofValue, Value.shown_of_not_showable showable]
    constructor
    · rintro rfl
      exact .unshown showable
    · rintro (showable | _)
      · contradiction
      · rfl

end ColorMarkup
