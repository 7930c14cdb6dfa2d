import ColorMarkup.Config.Merge
import ColorMarkup.Proofs.Tables
import Mathlib.Data.List.Forall2

/-!
Layers of settings: each setting, and each sign on its own, is that of the last layer that has it.
Layers whose tables differ only in their order and in keys that are not known say the same.
-/

namespace ColorMarkup

/-- Settings and where they come from. -/
structure Layer where
  label : String
  table : Entries

namespace Value

def boolean? : Value → Option Bool
  | boolean setting => some setting
  | _ => none

def text? : Value → Option String
  | text content => some content
  | _ => none

def table? : Value → Option Entries
  | table entries => some entries
  | _ => none

end Value

namespace Layer

def boolean? (key : String) (layer : Layer) : Option Bool :=
  (Value.lookup? layer.table key).bind Value.boolean?

def signIn? (role : SignRole) (signs : Entries) : Option String :=
  (Value.lookup? signs role.key).bind Value.text?

def sign? (role : SignRole) (layer : Layer) : Option String :=
  ((Value.lookup? layer.table Config.signsKey).bind Value.table?).bind (signIn? role)

def SignsTyped (signs : Entries) : Prop :=
  ∀ entry ∈ signs, entry.1 ∈ SignRole.all.map SignRole.key → ∃ sign, entry.2 = .text sign

/-- Every known key that is there holds a value of its type. -/
structure WellTyped (layer : Layer) : Prop where
  booleans : ∀ key ∈ [Config.restoreDefaultsKey, Config.newlineKey], ∀ value,
    Value.lookup? layer.table key = some value → ∃ setting, value = .boolean setting
  signs : ∀ value, Value.lookup? layer.table Config.signsKey = some value →
    ∃ signs, value = .table signs ∧ SignsTyped signs

end Layer

def PerSign.ofRoles {α : Type} (value : SignRole → α) : PerSign α where
  fore := value .fore
  back := value .back
  stop := value .stop
  openBracket := value .openBracket
  closeBracket := value .closeBracket

@[simp] theorem PerSign.get_ofRoles {α : Type} (value : SignRole → α) (role : SignRole) :
    (PerSign.ofRoles value).get role = value role := by
  cases role <;> rfl

namespace SignRole

theorem key_mem (role : SignRole) : role.key ∈ all.map key :=
  List.mem_map_of_mem (mem_all role)

theorem key_injective {first second : SignRole} (same : first.key = second.key) :
    first = second := by
  have found := ofKey?_key first
  rw [same, ofKey?_key] at found
  injection found with equal
  exact equal.symm

theorem key_ne_of_ofKey?_eq_none {name : String} (foreign : ofKey? name = none) (role : SignRole) :
    name ≠ role.key := by
  rintro rfl
  rw [ofKey?_key] at foreign
  contradiction

end SignRole

namespace Merging

/-- A merge that no fault has ended, and the draft it has come to. -/
structure Gives (merging : Merging) (draft : Draft) : Prop where
  fault : merging.fault = none
  draft : merging.draft = draft

theorem Gives.andThen {merging : Merging} {draft next : Draft} {step : Draft → Merging}
    (gives : merging.Gives draft) (goes : (step draft).Gives next) :
    (merging.andThen step).Gives next := by
  rw [Merging.andThen, gives.fault, gives.draft]
  exact ⟨goes.fault, goes.draft⟩

end Merging

namespace Layer

theorem signIn?_cons {rest : Entries} (typed : SignsTyped rest) (key : String) (value : Value)
    (role : SignRole) :
    signIn? role ((key, value) :: rest)
      = (signIn? role rest).or (if key = role.key then value.text? else none) := by
  unfold signIn?
  rw [Value.lookup?_cons]
  cases found : Value.lookup? rest role.key with
  | none => by_cases same : key = role.key <;> simp [same]
  | some last =>
    obtain ⟨sign, text⟩ := typed _ (Value.mem_of_lookup? found) role.key_mem
    have known : last = .text sign := text
    subst known
    rfl

theorem signs_cons {rest : Entries} (typed : SignsTyped rest) (signs : PerSign String)
    (role : SignRole) (sign : String) :
    PerSign.ofRoles (fun other => (signIn? other rest).getD ((signs.set role sign).get other))
      = .ofRoles fun other =>
        (signIn? other ((role.key, .text sign) :: rest)).getD (signs.get other) := by
  refine PerSign.ext_get fun other => ?_
  rw [PerSign.get_ofRoles, PerSign.get_ofRoles, signIn?_cons typed]
  by_cases equal : other = role
  · subst equal
    rw [PerSign.get_set_same, if_pos rfl]
    cases signIn? other rest <;> rfl
  · have different : role.key ≠ other.key := fun same => equal (SignRole.key_injective same).symm
    rw [PerSign.get_set_other _ _ equal, if_neg different, Option.or_none]

theorem mergeSigns_typed (source : String) {signs : Entries} (typed : SignsTyped signs)
    (draft : Draft) :
    (Draft.mergeSigns source signs draft).Gives { draft with
      signs := .ofRoles fun role => (signIn? role signs).getD (draft.signs.get role) } := by
  induction signs generalizing draft with
  | nil =>
    refine ⟨rfl, ?_⟩
    have same : draft.signs = .ofRoles fun role => draft.signs.get role := rfl
    exact congrArg (fun signs => { draft with signs }) same
  | cons entry rest ih =>
    have restTyped : SignsTyped rest :=
      fun other member => typed other (List.mem_cons_of_mem _ member)
    obtain ⟨key, value⟩ := entry
    cases known : SignRole.ofKey? key with
    | none =>
      have foreign (role : SignRole) : signIn? role ((key, value) :: rest) = signIn? role rest := by
        rw [signIn?_cons restTyped,
          if_neg (SignRole.key_ne_of_ofKey?_eq_none known role), Option.or_none]
      have step : Draft.mergeSigns source ((key, value) :: rest) draft
          = ({ draft, notices := [.unknownSign source key] } : Merging).andThen
              (Draft.mergeSigns source rest) := by
        simp [Draft.mergeSigns, known]
      simp only [step, foreign]
      have noted : ({ draft, notices := [.unknownSign source key] } : Merging).Gives draft :=
        ⟨rfl, rfl⟩
      exact noted.andThen (ih restTyped draft)
    | some role =>
      have named := SignRole.eq_key_of_ofKey? known
      subst named
      obtain ⟨sign, text⟩ := typed _ List.mem_cons_self role.key_mem
      have known : value = .text sign := text
      subst known
      have step : Draft.mergeSigns source ((role.key, .text sign) :: rest) draft
          = Draft.mergeSigns source rest { draft with signs := draft.signs.set role sign } := by
        simp [Draft.mergeSigns, SignRole.ofKey?_key]
      rw [step]
      have gives := ih restTyped { draft with signs := draft.signs.set role sign }
      rw [signs_cons restTyped] at gives
      exact gives

/-- A draft with the settings of a layer in place of its own, one by one. -/
def laidOver (draft : Draft) (layer : Layer) : Draft where
  signs := .ofRoles fun role => (layer.sign? role).getD (draft.signs.get role)
  restoreDefaults := (layer.boolean? Config.restoreDefaultsKey).getD draft.restoreDefaults
  newline := (layer.boolean? Config.newlineKey).getD draft.newline
  sources := draft.sources ++ [layer.label]

variable {layer : Layer}

theorem WellTyped.mergeBoolean (typed : layer.WellTyped) (key : String)
    (known : key ∈ [Config.restoreDefaultsKey, Config.newlineKey]) (set : Draft → Bool → Draft)
    (draft : Draft) :
    (Draft.mergeBoolean layer.label key layer.table set draft).Gives
      (((layer.boolean? key).map (set draft)).getD draft) := by
  unfold Draft.mergeBoolean boolean?
  cases found : Value.lookup? layer.table key with
  | none => exact ⟨rfl, rfl⟩
  | some value =>
    obtain ⟨setting, rfl⟩ := typed.booleans key known value found
    exact ⟨rfl, rfl⟩

theorem WellTyped.mergeSignTable (typed : layer.WellTyped) (draft : Draft) :
    (Draft.mergeSignTable layer.label layer.table draft).Gives { draft with
      signs := .ofRoles fun role => (layer.sign? role).getD (draft.signs.get role) } := by
  unfold Draft.mergeSignTable sign?
  cases found : Value.lookup? layer.table Config.signsKey with
  | none => exact ⟨rfl, rfl⟩
  | some value =>
    obtain ⟨signs, rfl, texts⟩ := typed.signs value found
    exact mergeSigns_typed layer.label texts draft

theorem WellTyped.merge (typed : layer.WellTyped) (draft : Draft) :
    (draft.merge layer.label layer.table).Gives (laidOver draft layer) := by
  have opening : ({ draft, notices := Draft.unknownKeys layer.label layer.table } : Merging).Gives
      draft := ⟨rfl, rfl⟩
  have restoring := opening.andThen (typed.mergeBoolean Config.restoreDefaultsKey (by simp)
    (fun draft value => { draft with restoreDefaults := value }) draft)
  have ending := restoring.andThen (typed.mergeBoolean Config.newlineKey (by simp)
    (fun draft value => { draft with newline := value }) _)
  have signed := ending.andThen (typed.mergeSignTable _)
  refine signed.andThen ⟨rfl, ?_⟩
  unfold laidOver
  cases layer.boolean? Config.restoreDefaultsKey <;> cases layer.boolean? Config.newlineKey <;> rfl

end Layer

/-- Tables with the same settings: at the root and among the signs, keys may be in another order,
and there may be others that are not known. -/
inductive SameSettings : Entries → Entries → Prop
  | root {first second : Entries} : Rearranged Config.rootKeys first second →
      SameSettings first second
  | signs (before after : Entries) {signs others : Entries} :
      Rearranged (SignRole.all.map SignRole.key) signs others →
      SameSettings (before ++ (Config.signsKey, .table signs) :: after)
        (before ++ (Config.signsKey, .table others) :: after)
  | trans {first second third : Entries} : SameSettings first second →
      SameSettings second third → SameSettings first third

namespace Layer

/-- Layers that say the same, wherever they come from. -/
structure Agrees (first second : Layer) : Prop where
  booleans : ∀ key ∈ [Config.restoreDefaultsKey, Config.newlineKey],
    Value.lookup? first.table key = Value.lookup? second.table key
  signs : ∀ role, first.sign? role = second.sign? role
  typed : first.WellTyped → second.WellTyped

theorem Agrees.trans {first second third : Layer} (earlier : first.Agrees second)
    (later : second.Agrees third) : first.Agrees third where
  booleans key known := (earlier.booleans key known).trans (later.booleans key known)
  signs role := (earlier.signs role).trans (later.signs role)
  typed well := later.typed (earlier.typed well)

theorem signIn?_rearranged {first second : Entries}
    (rearranged : Rearranged (SignRole.all.map SignRole.key) first second) (role : SignRole) :
    signIn? role first = signIn? role second := by
  rw [signIn?, signIn?, rearranged.lookup? role.key_mem]

theorem SignsTyped.rearranged {first second : Entries} (typed : SignsTyped first)
    (rearranged : Rearranged (SignRole.all.map SignRole.key) first second) : SignsTyped second := by
  intro entry member known
  exact typed entry ((rearranged.mem_iff known).mpr member) known

theorem agrees_of_lookup {first second : Layer}
    (same : ∀ key ∈ Config.rootKeys,
      Value.lookup? first.table key = Value.lookup? second.table key) : first.Agrees second := by
  have signs := same Config.signsKey (by simp [Config.rootKeys])
  have booleans : ∀ key ∈ [Config.restoreDefaultsKey, Config.newlineKey],
      Value.lookup? first.table key = Value.lookup? second.table key := by
    intro key known
    refine same key ?_
    simp only [List.mem_cons, List.not_mem_nil, or_false] at known
    rcases known with rfl | rfl <;> simp [Config.rootKeys]
  refine ⟨booleans, fun role => by rw [sign?, sign?, signs], fun typed => ⟨?_, ?_⟩⟩
  · intro key known
    rw [← booleans key known]
    exact typed.booleans key known
  · rw [← signs]
    exact typed.signs

theorem agrees_of_signs (label : String) (before after : Entries) {signs others : Entries}
    (rearranged : Rearranged (SignRole.all.map SignRole.key) signs others) :
    Agrees { label, table := before ++ (Config.signsKey, .table signs) :: after }
      { label, table := before ++ (Config.signsKey, .table others) :: after } := by
  have looked (key : String) (value : Value) :
      Value.lookup? (before ++ (Config.signsKey, value) :: after) key
        = ((Value.lookup? after key).or (if Config.signsKey = key then some value else none)).or
            (Value.lookup? before key) := by
    rw [Value.lookup?_append, Value.lookup?_cons]
  cases later : Value.lookup? after Config.signsKey with
  | some value =>
    -- another table of signs stands behind, and only that one counts
    refine agrees_of_lookup fun key _ => ?_
    rw [looked, looked]
    by_cases same : Config.signsKey = key
    · subst same
      rw [later]
      rfl
    · rw [if_neg same, if_neg same]
  | none =>
    have counts (value : Value) :
        Value.lookup? (before ++ (Config.signsKey, value) :: after) Config.signsKey
          = some value := by
      rw [looked, later, if_pos rfl]
      rfl
    have booleans : ∀ key ∈ [Config.restoreDefaultsKey, Config.newlineKey],
        Value.lookup? (before ++ (Config.signsKey, .table signs) :: after) key
          = Value.lookup? (before ++ (Config.signsKey, .table others) :: after) key := by
      intro key known
      have different : Config.signsKey ≠ key := by
        rintro rfl
        revert known
        decide
      rw [looked, looked, if_neg different, if_neg different]
    refine ⟨booleans, fun role => ?_, fun typed => ⟨?_, ?_⟩⟩
    · rw [sign?, sign?, counts, counts]
      exact signIn?_rearranged rearranged role
    · intro key known
      rw [← booleans key known]
      exact typed.booleans key known
    · intro value found
      rw [counts] at found
      injection found with same
      obtain ⟨own, isOwn, texts⟩ := typed.signs _ (counts (.table signs))
      injection isOwn with sameSigns
      subst sameSigns
      exact ⟨others, same.symm, texts.rearranged rearranged⟩

theorem agrees_of_sameSettings {first second : Entries} (same : SameSettings first second)
    (label : String) : Agrees { label, table := first } { label, table := second } := by
  induction same with
  | root rearranged => exact agrees_of_lookup fun key known => rearranged.lookup? known
  | signs before after rearranged => exact agrees_of_signs label before after rearranged
  | trans _ _ earlier later => exact earlier.trans later

/-- Layers of one label whose tables have the same settings. -/
structure Alike (first second : Layer) : Prop where
  label : first.label = second.label
  settings : SameSettings first.table second.table

theorem Alike.agrees {first second : Layer} (alike : first.Alike second) : first.Agrees second := by
  obtain ⟨label, table⟩ := first
  obtain ⟨other, settings⟩ := second
  obtain ⟨same, sameSettings⟩ := alike
  cases same
  exact agrees_of_sameSettings sameSettings label

end Layer

end ColorMarkup
