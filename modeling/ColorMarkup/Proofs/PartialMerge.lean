import ColorMarkup.Proofs.Layer
import ColorMarkup.Proofs.Showing

/-!
How far a merge gets. It looks at a table in an order of its own, takes over what has the right type,
and stops at the first value that has not; what it took over before stays.
-/

namespace ColorMarkup

/-- One thing that a merge looks at. -/
inductive MergeItem where
  | unknownKey (key : String)
  | restoreDefaults (value : Value)
  | newline (value : Value)
  /-- signs that are no table -/
  | noTable
  | unknownSign (key : String)
  | sign (role : SignRole) (value : Value)

namespace MergeItem

/-- The item has a value of a wrong type, and this is what is reported of it. -/
inductive Faulty (source : String) : MergeItem → MergeFault → Prop
  | restoreDefaults {value : Value} {fault : MergeFault} : (∀ setting, value ≠ .boolean setting) →
      Tells (.notBoolean source Config.restoreDefaultsKey) value fault →
      Faulty source (.restoreDefaults value) fault
  | newline {value : Value} {fault : MergeFault} : (∀ setting, value ≠ .boolean setting) →
      Tells (.notBoolean source Config.newlineKey) value fault →
      Faulty source (.newline value) fault
  | noTable : Faulty source .noTable (.config (.signsNotTable source))
  | sign {role : SignRole} {value : Value} {fault : MergeFault} : (∀ text, value ≠ .text text) →
      Tells (.signNotText source role) value fault → Faulty source (.sign role value) fault

def fault? (source : String) : MergeItem → Option MergeFault
  | unknownKey _ => none
  | restoreDefaults (.boolean _) => none
  | restoreDefaults value => some (.ofValue (.notBoolean source Config.restoreDefaultsKey) value)
  | newline (.boolean _) => none
  | newline value => some (.ofValue (.notBoolean source Config.newlineKey) value)
  | noTable => some (.config (.signsNotTable source))
  | unknownSign _ => none
  | sign _ (.text _) => none
  | sign role value => some (.ofValue (.signNotText source role) value)

def warning? (source : String) : MergeItem → Option ConfigNotice
  | unknownKey key => some (.unknownKey source key)
  | unknownSign key => some (.unknownSign source key)
  | _ => none

def take (draft : Draft) : MergeItem → Draft
  | restoreDefaults (.boolean value) => { draft with restoreDefaults := value }
  | newline (.boolean value) => { draft with newline := value }
  | sign role (.text letter) => { draft with signs := draft.signs.set role letter }
  | _ => draft

def isKnown : MergeItem → Bool
  | unknownKey _ => false
  | unknownSign _ => false
  | _ => true

def assignment? : MergeItem → Option (String × String)
  | sign role (.text letter) => some (role.key, letter)
  | _ => none

def ofSign (entry : String × Value) : MergeItem :=
  match SignRole.ofKey? entry.1 with
  | some role => sign role entry.2
  | none => unknownSign entry.1

def ofSigns : Option Value → List MergeItem
  | none => []
  | some .null => []
  | some (.table signs) => signs.map ofSign
  | some _ => [noTable]

def ofTable (table : Entries) : List MergeItem :=
  (table.filter fun entry => !Config.rootKeys.contains entry.1).map (fun entry => unknownKey entry.1)
    ++ ((Value.lookup? table Config.restoreDefaultsKey).map restoreDefaults).toList
    ++ ((Value.lookup? table Config.newlineKey).map newline).toList
    ++ ofSigns (Value.lookup? table Config.signsKey)

end MergeItem

/-- A table with a value of a wrong type under a known key. -/
inductive IllTyped (table : Entries) : Prop
  | restoreDefaults {value : Value} :
      Value.lookup? table Config.restoreDefaultsKey = some value →
      (∀ setting, value ≠ .boolean setting) → IllTyped table
  | newline {value : Value} :
      Value.lookup? table Config.newlineKey = some value →
      (∀ setting, value ≠ .boolean setting) → IllTyped table
  | signs {value : Value} :
      Value.lookup? table Config.signsKey = some value → value ≠ .null →
      (∀ signs, value ≠ .table signs) → IllTyped table
  | sign {signs : Entries} {role : SignRole} {value : Value} :
      Value.lookup? table Config.signsKey = some (.table signs) → (role.key, value) ∈ signs →
      (∀ text, value ≠ .text text) → IllTyped table

def knownValue (key : String) : Value → Value
  | .table signs =>
    if key = Config.signsKey then .table (signs.filter fun sign => (SignRole.ofKey? sign.1).isSome)
    else .table signs
  | value => value

def knownPart (table : Entries) : Entries :=
  (table.filter fun entry => Config.rootKeys.contains entry.1).map fun entry =>
    (entry.1, knownValue entry.1 entry.2)

def assign (texts : List (String × String)) (entry : String × String) : List (String × String) :=
  match texts with
  | [] => [entry]
  | (key, text) :: rest =>
    if key = entry.1 then (key, entry.2) :: rest else (key, text) :: assign rest entry

namespace Draft

def signTexts (draft : Draft) : List (String × String) :=
  SignRole.all.map fun role => (role.key, draft.signs.get role)

def takes (draft : Draft) (items : List MergeItem) : Draft :=
  items.foldl MergeItem.take draft

def takeAll (source : String) : List MergeItem → Draft → Merging
  | [], draft => { draft }
  | item :: rest, draft =>
    match item.fault? source with
    | some fault => { draft, fault := some fault }
    | none =>
      ({ draft := item.take draft, notices := (item.warning? source).toList } : Merging).andThen
        (takeAll source rest)

end Draft

/-- How a merge goes that looks at some items: it takes them all over, or those in front of the first
one at fault. -/
inductive Merging.Goes (source : String) (draft : Draft) (items : List MergeItem) : Merging → Prop
  | through : (∀ item ∈ items, ∀ fault, ¬item.Faulty source fault) →
      Goes source draft items {
        draft := { draft.takes items with sources := draft.sources ++ [source] }
        notices := items.filterMap (MergeItem.warning? source) ++ [.merged source] }
  | upTo {before after : List MergeItem} {faulty : MergeItem} {fault : MergeFault} :
      items = before ++ faulty :: after → (∀ item ∈ before, ∀ fault, ¬item.Faulty source fault) →
      faulty.Faulty source fault →
      Goes source draft items {
        draft := { draft.takes before with sources := draft.sources }
        notices := before.filterMap (MergeItem.warning? source)
        fault := some fault }

variable {source : String} {table : Entries} {draft : Draft}

theorem Merging.andThen_assoc (merging : Merging) (first second : Draft → Merging) :
    (merging.andThen first).andThen second
      = merging.andThen fun draft => (first draft).andThen second := by
  unfold Merging.andThen
  cases stopped : merging.fault with
  | some fault => simp [stopped]
  | none => cases later : (first merging.draft).fault <;> simp [later]

namespace Draft

theorem takeAll_cons_typed {item : MergeItem} (typed : item.fault? source = none)
    (rest : List MergeItem) (draft : Draft) :
    takeAll source (item :: rest) draft
      = ({ draft := item.take draft, notices := (item.warning? source).toList } : Merging).andThen
          (takeAll source rest) := by
  rw [takeAll, typed]

theorem takeAll_append (source : String) (first second : List MergeItem) (draft : Draft) :
    takeAll source (first ++ second) draft
      = (takeAll source first draft).andThen (takeAll source second) := by
  induction first generalizing draft with
  | nil => rfl
  | cons item rest ih =>
    rw [List.cons_append]
    cases stopped : item.fault? source with
    | some fault => simp only [takeAll, stopped, Merging.andThen]
    | none =>
      rw [takeAll_cons_typed stopped, takeAll_cons_typed stopped, Merging.andThen_assoc]
      exact congrArg _ (funext ih)

theorem takeAll_typed {items : List MergeItem} (typed : ∀ item ∈ items, item.fault? source = none)
    (draft : Draft) : takeAll source items draft
      = { draft := draft.takes items, notices := items.filterMap (MergeItem.warning? source) } := by
  induction items generalizing draft with
  | nil => rfl
  | cons item rest ih =>
    obtain ⟨first, others⟩ := List.forall_mem_cons.mp typed
    rw [takeAll_cons_typed first, Merging.andThen, ih others]
    cases warned : item.warning? source <;> simp [warned, takes]

theorem sources_takes (items : List MergeItem) (draft : Draft) :
    (draft.takes items).sources = draft.sources := by
  induction items generalizing draft with
  | nil => rfl
  | cons item rest ih =>
    have step : draft.takes (item :: rest) = (item.take draft).takes rest := rfl
    rw [step, ih]
    unfold MergeItem.take
    split <;> rfl

theorem mergeBoolean_restoreDefaults (source : String) (table : Entries) :
    mergeBoolean source Config.restoreDefaultsKey table
        (fun draft value => { draft with restoreDefaults := value })
      = takeAll source
          ((Value.lookup? table Config.restoreDefaultsKey).map .restoreDefaults).toList := by
  funext draft
  unfold mergeBoolean
  cases Value.lookup? table Config.restoreDefaultsKey with
  | none => rfl
  | some value => cases value <;> rfl

theorem mergeBoolean_newline (source : String) (table : Entries) :
    mergeBoolean source Config.newlineKey table (fun draft value => { draft with newline := value })
      = takeAll source ((Value.lookup? table Config.newlineKey).map .newline).toList := by
  funext draft
  unfold mergeBoolean
  cases Value.lookup? table Config.newlineKey with
  | none => rfl
  | some value => cases value <;> rfl

theorem mergeSigns_eq (source : String) (signs : Entries) :
    mergeSigns source signs = takeAll source (signs.map MergeItem.ofSign) := by
  induction signs with
  | nil => rfl
  | cons entry rest ih =>
    obtain ⟨key, value⟩ := entry
    funext draft
    cases known : SignRole.ofKey? key with
    | none =>
      have item : MergeItem.ofSign (key, value) = .unknownSign key := by
        simp [MergeItem.ofSign, known]
      simp only [mergeSigns, known, ih, List.map_cons, item]
      rfl
    | some role =>
      have item : MergeItem.ofSign (key, value) = .sign role value := by
        simp [MergeItem.ofSign, known]
      cases value with
      | text letter =>
        simp only [mergeSigns, known, ih, List.map_cons, item]
        rfl
      | _ =>
        simp only [mergeSigns, known, List.map_cons, item]
        rfl

theorem mergeSignTable_eq (source : String) (table : Entries) :
    mergeSignTable source table
      = takeAll source (MergeItem.ofSigns (Value.lookup? table Config.signsKey)) := by
  funext draft
  unfold mergeSignTable
  cases Value.lookup? table Config.signsKey with
  | none => rfl
  | some value =>
    cases value with
    | table signs =>
      dsimp only
      rw [mergeSigns_eq]
      rfl
    | _ => rfl

theorem takeAll_unknownKeys (source : String) (table : Entries) (draft : Draft) :
    takeAll source ((table.filter fun entry => !Config.rootKeys.contains entry.1).map
        fun entry => .unknownKey entry.1) draft
      = { draft, notices := unknownKeys source table } := by
  have typed : ∀ item ∈ (table.filter fun entry => !Config.rootKeys.contains entry.1).map
      (fun entry => MergeItem.unknownKey entry.1), item.fault? source = none := by
    intro item member
    obtain ⟨entry, _, rfl⟩ := List.mem_map.mp member
    rfl
  rw [takeAll_typed typed, unknownKeys]
  generalize table.filter (fun entry => !Config.rootKeys.contains entry.1) = entries
  have untouched : draft.takes (entries.map fun entry => .unknownKey entry.1) = draft := by
    induction entries with
    | nil => rfl
    | cons entry rest ih => exact ih
  rw [untouched, List.filterMap_map]
  congr 1
  exact congrFun (List.filterMap_eq_map
    (f := fun entry : String × Value => ConfigNotice.unknownKey source entry.1)) entries

theorem merge_eq (source : String) (table : Entries) (draft : Draft) :
    draft.merge source table
      = (takeAll source (MergeItem.ofTable table) draft).andThen fun draft =>
          { draft := { draft with sources := draft.sources ++ [source] }
            notices := [.merged source] } := by
  rw [MergeItem.ofTable, takeAll_append, takeAll_append, takeAll_append, takeAll_unknownKeys, merge,
    mergeBoolean_restoreDefaults, mergeBoolean_newline, mergeSignTable_eq]

end Draft

namespace MergeItem

theorem restoreDefaults_faulty {value : Value} :
    (restoreDefaults value).fault? source ≠ none ↔ ∀ setting, value ≠ .boolean setting := by
  cases value <;> simp [fault?]

theorem newline_faulty {value : Value} :
    (newline value).fault? source ≠ none ↔ ∀ setting, value ≠ .boolean setting := by
  cases value <;> simp [fault?]

theorem sign_faulty {role : SignRole} {value : Value} :
    (sign role value).fault? source ≠ none ↔ ∀ text, value ≠ .text text := by
  cases value <;> simp [fault?]

theorem fault?_eq_some_iff {item : MergeItem} {fault : MergeFault} :
    item.fault? source = some fault ↔ item.Faulty source fault := by
  constructor
  · intro raised
    unfold fault? at raised
    split at raised
    case h_3 other => exact .restoreDefaults other (tells_iff.mp (Option.some.inj raised))
    case h_5 other => exact .newline other (tells_iff.mp (Option.some.inj raised))
    case h_6 => exact Option.some.inj raised ▸ .noTable
    case h_9 other => exact .sign other (tells_iff.mp (Option.some.inj raised))
    all_goals contradiction
  · intro faulty
    cases faulty with
    | restoreDefaults other tells =>
      rw [fault?, tells_iff.mpr tells]
      exact other
    | newline other tells =>
      rw [fault?, tells_iff.mpr tells]
      exact other
    | noTable => rfl
    | sign other tells =>
      rw [fault?, tells_iff.mpr tells]
      exact other

theorem fault?_eq_none_iff {item : MergeItem} :
    item.fault? source = none ↔ ∀ fault, ¬item.Faulty source fault := by
  simp only [Option.eq_none_iff_forall_ne_some, ne_eq, fault?_eq_some_iff]

theorem mem_ofSigns {value? : Option Value} {item : MergeItem} :
    item ∈ ofSigns value?
      ↔ (item = noTable ∧ ∃ value, value? = some value ∧ value ≠ .null
          ∧ ∀ signs, value ≠ .table signs)
        ∨ ∃ signs, value? = some (.table signs) ∧ ∃ entry ∈ signs, ofSign entry = item := by
  cases value? with
  | none => simp [ofSigns]
  | some value => cases value <;> simp [ofSigns]

theorem mem_ofTable {item : MergeItem} :
    item ∈ ofTable table
      ↔ (∃ entry, (entry ∈ table ∧ (!Config.rootKeys.contains entry.1) = true)
          ∧ unknownKey entry.1 = item)
        ∨ (∃ value, Value.lookup? table Config.restoreDefaultsKey = some value
          ∧ restoreDefaults value = item)
        ∨ (∃ value, Value.lookup? table Config.newlineKey = some value ∧ newline value = item)
        ∨ item ∈ ofSigns (Value.lookup? table Config.signsKey) := by
  simp only [ofTable, List.mem_append, List.mem_map, List.mem_filter, Option.mem_toList,
    Option.map_eq_some_iff, or_assoc]

end MergeItem

theorem illTyped_iff (source : String) (table : Entries) :
    IllTyped table ↔ ∃ item ∈ MergeItem.ofTable table, item.fault? source ≠ none := by
  constructor
  · intro wrong
    cases wrong with
    | restoreDefaults found other =>
      exact ⟨_, MergeItem.mem_ofTable.mpr (.inr (.inl ⟨_, found, rfl⟩)),
        MergeItem.restoreDefaults_faulty.mpr other⟩
    | newline found other =>
      exact ⟨_, MergeItem.mem_ofTable.mpr (.inr (.inr (.inl ⟨_, found, rfl⟩))),
        MergeItem.newline_faulty.mpr other⟩
    | signs found present other =>
      refine ⟨.noTable, MergeItem.mem_ofTable.mpr (.inr (.inr (.inr ?_))), Option.some_ne_none _⟩
      exact MergeItem.mem_ofSigns.mpr (.inl ⟨rfl, _, found, present, other⟩)
    | @sign signs role value found member other =>
      have item : MergeItem.ofSign (role.key, value) = .sign role value := by
        simp [MergeItem.ofSign, SignRole.ofKey?_key]
      refine ⟨.sign role value, MergeItem.mem_ofTable.mpr (.inr (.inr (.inr ?_))),
        MergeItem.sign_faulty.mpr other⟩
      exact MergeItem.mem_ofSigns.mpr (.inr ⟨_, found, _, member, item⟩)
  · rintro ⟨item, member, faulty⟩
    rcases MergeItem.mem_ofTable.mp member with
      ⟨entry, _, rfl⟩ | ⟨value, found, rfl⟩ | ⟨value, found, rfl⟩ | signed
    · exact absurd rfl faulty
    · exact .restoreDefaults found (MergeItem.restoreDefaults_faulty.mp faulty)
    · exact .newline found (MergeItem.newline_faulty.mp faulty)
    · rcases MergeItem.mem_ofSigns.mp signed with
        ⟨_, value, found, present, other⟩ | ⟨signs, found, ⟨key, value⟩, listed, rfl⟩
      · exact .signs found present other
      · cases known : SignRole.ofKey? key with
        | none => simp [MergeItem.ofSign, known, MergeItem.fault?] at faulty
        | some role =>
          have named := SignRole.eq_key_of_ofKey? known
          subst named
          simp only [MergeItem.ofSign, known] at faulty
          exact .sign found listed (MergeItem.sign_faulty.mp faulty)

theorem Draft.goes_merge (source : String) (table : Entries) (draft : Draft) :
    Merging.Goes source draft (MergeItem.ofTable table) (draft.merge source table) := by
  rw [merge_eq]
  cases found : (MergeItem.ofTable table).find? fun item => (item.fault? source).isSome with
  | none =>
    have typed : ∀ item ∈ MergeItem.ofTable table, item.fault? source = none := by
      intro item member
      simpa using List.find?_eq_none.mp found item member
    rw [takeAll_typed typed, Merging.andThen]
    simp only [sources_takes]
    exact .through fun item member => MergeItem.fault?_eq_none_iff.mp (typed item member)
  | some faulty =>
    obtain ⟨wrong, before, after, split, fine⟩ := List.find?_eq_some_iff_append.mp found
    obtain ⟨fault, raised⟩ := Option.isSome_iff_exists.mp wrong
    have typed : ∀ item ∈ before, item.fault? source = none := by
      intro item member
      simpa using fine item member
    have stopped : takeAll source (faulty :: after) (draft.takes before)
        = { draft := draft.takes before, fault := some fault } := by
      rw [takeAll, raised]
    rw [split, takeAll_append, takeAll_typed typed]
    simp only [Merging.andThen, stopped, List.append_nil]
    rw [← split]
    have goes : Merging.Goes source draft (MergeItem.ofTable table) _ :=
      .upTo split (fun item member => MergeItem.fault?_eq_none_iff.mp (typed item member))
        (MergeItem.fault?_eq_some_iff.mp raised)
    rw [← sources_takes before draft] at goes
    exact goes

/-- Merges that come to the same draft and the same fault. -/
structure Merging.Alike (first second : Merging) : Prop where
  draft : first.draft = second.draft
  fault : first.fault = second.fault

theorem Merging.Alike.andThen {first second : Merging} {step other : Draft → Merging}
    (alike : first.Alike second) (goes : ∀ draft, (step draft).Alike (other draft)) :
    (first.andThen step).Alike (second.andThen other) := by
  unfold Merging.andThen
  rw [← alike.fault, ← alike.draft]
  cases stopped : first.fault with
  | some fault => exact ⟨alike.draft, stopped.trans (alike.fault.symm.trans stopped).symm⟩
  | none => exact ⟨(goes _).draft, (goes _).fault⟩

theorem Draft.takeAll_known (source : String) (items : List MergeItem) (draft : Draft) :
    (takeAll source (items.filter MergeItem.isKnown) draft).Alike (takeAll source items draft) := by
  induction items generalizing draft with
  | nil => exact ⟨rfl, rfl⟩
  | cons item rest ih =>
    cases known : item.isKnown with
    | true =>
      rw [List.filter_cons_of_pos known]
      unfold takeAll
      cases item.fault? source with
      | some fault => exact ⟨rfl, rfl⟩
      | none => exact Merging.Alike.andThen ⟨rfl, rfl⟩ ih
    | false =>
      have passedOver : item.fault? source = none ∧ item.take draft = draft := by
        cases item <;> first | exact ⟨rfl, rfl⟩ | contradiction
      rw [List.filter_cons_of_neg (by simp [known]), takeAll_cons_typed passedOver.1, passedOver.2]
      have later := ih draft
      exact ⟨later.draft, later.fault⟩

namespace Value

theorem lookup?_filter {kept : String → Bool} {name : String} (wanted : kept name = true)
    (entries : Entries) :
    lookup? (entries.filter fun entry => kept entry.1) name = lookup? entries name := by
  induction entries with
  | nil => rfl
  | cons entry rest ih =>
    obtain ⟨key, value⟩ := entry
    rw [lookup?_cons, List.filter_cons]
    by_cases here : kept key = true
    · rw [if_pos here, lookup?_cons, ih]
    · have different : key ≠ name := by
        rintro rfl
        exact here wanted
      rw [if_neg here, ih, if_neg different, Option.or_none]

theorem lookup?_map (change : String → Value → Value) (entries : Entries) (name : String) :
    lookup? (entries.map fun entry => (entry.1, change entry.1 entry.2)) name
      = (lookup? entries name).map (change name) := by
  induction entries with
  | nil => rfl
  | cons entry rest ih =>
    obtain ⟨key, value⟩ := entry
    rw [List.map_cons, lookup?_cons, lookup?_cons, ih]
    by_cases same : key = name
    · subst same
      cases lookup? rest key <;> simp
    · cases lookup? rest name <;> simp [same]

end Value

namespace MergeItem

theorem ofSigns_known (value? : Option Value) :
    ofSigns (value?.map (knownValue Config.signsKey)) = (ofSigns value?).filter isKnown := by
  have known : isKnown ∘ ofSign = fun sign => (SignRole.ofKey? sign.1).isSome := by
    funext entry
    simp only [Function.comp_apply, ofSign]
    cases SignRole.ofKey? entry.1 <;> rfl
  cases value? with
  | none => rfl
  | some value =>
    cases value with
    | table signs =>
      simp only [Option.map_some, knownValue, if_true, ofSigns]
      rw [List.filter_map, known]
    | _ => rfl

theorem ofTable_known (table : Entries) :
    ofTable (knownPart table) = (ofTable table).filter isKnown := by
  have looked {name : String} (asked : Config.rootKeys.contains name = true) :
      Value.lookup? (knownPart table) name = (Value.lookup? table name).map (knownValue name) := by
    rw [knownPart, Value.lookup?_map, Value.lookup?_filter asked]
  have same {name : String} (other : name ≠ Config.signsKey) (value? : Option Value) :
      value?.map (knownValue name) = value? := by
    rcases value? with _ | value
    · rfl
    · cases value <;> simp [knownValue, other]
  have foreign : (knownPart table).filter (fun entry => !Config.rootKeys.contains entry.1) = [] := by
    rw [List.filter_eq_nil_iff]
    intro entry member
    obtain ⟨before, kept, rfl⟩ := List.mem_map.mp member
    simpa using (List.mem_filter.mp kept).2
  have unknown (entries : Entries) :
      (entries.map fun entry => unknownKey entry.1).filter isKnown = [] := by
    rw [List.filter_eq_nil_iff]
    intro item member
    obtain ⟨entry, _, rfl⟩ := List.mem_map.mp member
    simp [isKnown]
  have setting (form : Value → MergeItem) (always : ∀ value, (form value).isKnown = true)
      (value? : Option Value) :
      ((value?.map form).toList).filter isKnown = (value?.map form).toList := by
    cases value? <;> simp [always]
  rw [ofTable, foreign, looked (by decide), looked (by decide), looked (by decide),
    same (by decide), same (by decide), ofSigns_known, ofTable, List.filter_append,
    List.filter_append, List.filter_append, unknown, setting _ fun _ => rfl,
    setting _ fun _ => rfl]
  rfl

end MergeItem

namespace Draft

theorem merge_known (source : String) (table : Entries) (draft : Draft) :
    (draft.merge source (knownPart table)).Alike (draft.merge source table) := by
  rw [merge_eq, merge_eq, MergeItem.ofTable_known]
  exact (takeAll_known source _ draft).andThen fun _ => ⟨rfl, rfl⟩

theorem signTexts_take (item : MergeItem) (draft : Draft) :
    (item.take draft).signTexts = item.assignment?.toList.foldl assign draft.signTexts := by
  cases item with
  | sign role value =>
    cases value with
    | text letter =>
      cases role <;>
        simp [MergeItem.take, MergeItem.assignment?, signTexts, SignRole.all, assign, PerSign.get,
          PerSign.set, SignRole.key]
    | _ => rfl
  | restoreDefaults value => cases value <;> rfl
  | newline value => cases value <;> rfl
  | _ => rfl

theorem signTexts_takes (items : List MergeItem) (draft : Draft) :
    (draft.takes items).signTexts
      = (items.filterMap MergeItem.assignment?).foldl assign draft.signTexts := by
  induction items generalizing draft with
  | nil => rfl
  | cons item rest ih =>
    have step : draft.takes (item :: rest) = (item.take draft).takes rest := rfl
    rw [step, ih, signTexts_take]
    cases assigned : item.assignment? <;> simp [assigned]

end Draft

theorem MergeItem.Faulty.isConfig {item : MergeItem} {fault : MergeFault}
    (faulty : item.Faulty source fault) (member : item ∈ ofTable table)
    (showable : (Value.table table).Showable) : ∃ own, fault = .config own := by
  have shown {form : String → ConfigFault} {value : Value} (tells : Tells form value fault)
      (fits : value.Showable) : ∃ own, fault = .config own := by
    cases tells with
    | shown _ => exact ⟨_, rfl⟩
    | unshown long => contradiction
  have known {key : String} {value : Value} (found : Value.lookup? table key = some value) :
      value.Showable :=
    Value.showable_table.mp showable _ (Value.mem_of_lookup? found)
  rcases mem_ofTable.mp member with
    ⟨_, _, rfl⟩ | ⟨value, found, rfl⟩ | ⟨value, found, rfl⟩ | signed
  · cases faulty
  · cases faulty with
    | restoreDefaults _ tells => exact shown tells (known found)
  · cases faulty with
    | newline _ tells => exact shown tells (known found)
  · rcases mem_ofSigns.mp signed with ⟨rfl, _⟩ | ⟨signs, found, ⟨key, value⟩, listed, rfl⟩
    · cases faulty
      exact ⟨_, rfl⟩
    · have fits : value.Showable := Value.showable_table.mp (known found) _ listed
      unfold ofSign at faulty
      split at faulty
      · cases faulty with
        | sign _ tells => exact shown tells fits
      · cases faulty

theorem Merging.Goes.exists_faulty {items : List MergeItem} {merging : Merging}
    (goes : merging.Goes source draft items) {fault : MergeFault}
    (failed : merging.fault = some fault) : ∃ item ∈ items, item.Faulty source fault := by
  cases goes with
  | through _ => contradiction
  | @upTo before after faulty other split _ raised =>
    injection failed with same
    subst same
    refine ⟨faulty, ?_, raised⟩
    rw [split]
    exact List.mem_append_right before List.mem_cons_self

theorem Draft.isConfig_of_merge {fault : MergeFault}
    (failed : (draft.merge source table).fault = some fault)
    (showable : (Value.table table).Showable) : ∃ own, fault = .config own := by
  obtain ⟨item, member, faulty⟩ := (draft.goes_merge source table).exists_faulty failed
  exact faulty.isConfig member showable

theorem Draft.merge_fails_iff (draft : Draft) (source : String) (table : Entries) :
    (draft.merge source table).fault ≠ none ↔ IllTyped table := by
  have goes := draft.goes_merge source table
  generalize draft.merge source table = merging at goes
  rw [illTyped_iff source]
  constructor
  · intro failed
    obtain ⟨fault, raised⟩ := Option.ne_none_iff_exists'.mp failed
    obtain ⟨item, member, faulty⟩ := goes.exists_faulty raised
    refine ⟨item, member, ?_⟩
    rw [MergeItem.fault?_eq_some_iff.mpr faulty]
    exact Option.some_ne_none fault
  · rintro ⟨item, member, faulty⟩
    cases goes with
    | through typed => exact absurd (MergeItem.fault?_eq_none_iff.mpr (typed item member)) faulty
    | upTo _ _ _ => exact Option.some_ne_none _

/-- A merge fails exactly for an ill typed table. It takes over what it comes to look at, up to the
first value of a wrong type, and reports that; only a merge that gets through adds its source. The
report is a fault of the configuration, unless the value holds an integer too long to be shown. What
is not known is warned of where it is met and has no other part, and the signs stay the same five. -/
theorem merge_takes_up_to_first_fault (draft : Draft) (source : String) (table : Entries) :
    let merging := draft.merge source table
    (merging.fault ≠ none ↔ IllTyped table)
      ∧ merging.Goes source draft (MergeItem.ofTable table)
      ∧ ((Value.table table).Showable → IllTyped table →
        ∃ own, merging.fault = some (.config own))
      ∧ (draft.merge source (knownPart table)).Alike merging
      ∧ (∀ items, (draft.takes items).signTexts
          = (items.filterMap MergeItem.assignment?).foldl assign draft.signTexts)
      ∧ merging.draft.signTexts.map Prod.fst = SignRole.all.map SignRole.key := by
  refine ⟨draft.merge_fails_iff source table, draft.goes_merge source table, ?_,
    draft.merge_known source table, fun items => Draft.signTexts_takes items draft, rfl⟩
  intro showable wrong
  obtain ⟨fault, failed⟩ :=
    Option.ne_none_iff_exists'.mp ((draft.merge_fails_iff source table).mpr wrong)
  obtain ⟨own, rfl⟩ := Draft.isConfig_of_merge failed showable
  exact ⟨own, failed⟩

/-- The third sign is no text: what stands in front of it at the root and among the signs is taken
over, and the sign behind it is not. -/
theorem merge_takes_up_to_first_fault_midway :
    let table : Entries := [
      ("signs", .table [("back", .text "b"), ("shade", .null), ("stop", .integer 3),
        ("fore", .text "f")]),
      ("width", .integer 1), ("newline", .boolean false)]
    let merging := ({} : Draft).merge "settings" table
    merging.fault ≠ none
      ∧ merging.draft.newline = false
      ∧ merging.draft.signTexts = [("fore", "%"), ("back", "b"), ("stop", "~"),
        ("open_bracket", "\x7b"), ("close_bracket", "\x7d")]
      ∧ merging.draft.sources = [] := by
  intro table merging
  let signs : Entries := [("back", .text "b"), ("shade", .null), ("stop", .integer 3),
    ("fore", .text "f")]
  have listed : (SignRole.stop.key, Value.integer 3) ∈ signs := by simp [signs, SignRole.key]
  have found : Value.lookup? table Config.signsKey = some (.table signs) := rfl
  have wrong : IllTyped table := .sign found listed (by simp)
  exact ⟨(merge_takes_up_to_first_fault {} "settings" table).1.mpr wrong, rfl, rfl, rfl⟩

/-- A setting of a wrong type is not reported as such if it is an integer too long to be shown. -/
theorem merge_unshown :
    let table : Entries := [("restore_defaults", .integer (Nat.pow 10 4300))]
    IllTyped table
      ∧ (({} : Draft).merge "settings" table).fault = some (.unshown .tooLong) := by
  intro table
  have long : ¬(Value.integer (Nat.pow 10 4300)).Showable := by
    rw [Value.showable_integer, Int.natAbs_natCast]
    exact Nat.lt_irrefl _
  have reported (number : Int) :
      (({} : Draft).merge "settings" [("restore_defaults", .integer number)]).fault
        = some (.ofValue (.notBoolean "settings" "restore_defaults") (.integer number)) := rfl
  have found (number : Int) : Value.lookup? [("restore_defaults", Value.integer number)]
      Config.restoreDefaultsKey = some (.integer number) := rfl
  have other (number : Int) (setting : Bool) : Value.integer number ≠ .boolean setting := by simp
  refine ⟨.restoreDefaults (found _) (other _), ?_⟩
  exact (reported _).trans (congrArg some (tells_iff.mpr (.unshown long)))

end ColorMarkup
