import ColorMarkup.Value

/-!
The five sign characters of the markup. A set of signs is usable if every sign is one character,
none is a plain digit and no two are equal; `Signs` holds usable sets only.
-/

namespace ColorMarkup

inductive SignRole where
  | fore
  | back
  | stop
  | openBracket
  | closeBracket
deriving DecidableEq

namespace SignRole

def all : List SignRole :=
  [fore, back, stop, openBracket, closeBracket]

def key : SignRole → String
  | fore => "fore"
  | back => "back"
  | stop => "stop"
  | openBracket => "open_bracket"
  | closeBracket => "close_bracket"

def ofKey? (key : String) : Option SignRole :=
  all.find? fun role => role.key == key

theorem mem_all (role : SignRole) : role ∈ all := by
  cases role <;> decide

theorem ofKey?_key (role : SignRole) : ofKey? role.key = some role := by
  cases role <;> decide

theorem eq_key_of_ofKey? {key : String} {role : SignRole} (found : ofKey? key = some role) :
    key = role.key := by
  have test := List.find?_some found
  exact (beq_iff_eq.mp test).symm

end SignRole

structure PerSign (α : Type) where
  fore : α
  back : α
  stop : α
  openBracket : α
  closeBracket : α
deriving DecidableEq

namespace PerSign

variable {α β : Type}

def get (signs : PerSign α) : SignRole → α
  | .fore => signs.fore
  | .back => signs.back
  | .stop => signs.stop
  | .openBracket => signs.openBracket
  | .closeBracket => signs.closeBracket

def set (signs : PerSign α) (role : SignRole) (value : α) : PerSign α :=
  match role with
  | .fore => { signs with fore := value }
  | .back => { signs with back := value }
  | .stop => { signs with stop := value }
  | .openBracket => { signs with openBracket := value }
  | .closeBracket => { signs with closeBracket := value }

def map (change : α → β) (signs : PerSign α) : PerSign β where
  fore := change signs.fore
  back := change signs.back
  stop := change signs.stop
  openBracket := change signs.openBracket
  closeBracket := change signs.closeBracket

def toList (signs : PerSign α) : List α :=
  [signs.fore, signs.back, signs.stop, signs.openBracket, signs.closeBracket]

@[simp] theorem get_set_same (signs : PerSign α) (role : SignRole) (value : α) :
    (signs.set role value).get role = value := by
  cases role <;> rfl

theorem get_set_other (signs : PerSign α) {role other : SignRole} (value : α)
    (different : other ≠ role) : (signs.set role value).get other = signs.get other := by
  cases role <;> cases other <;> first | rfl | contradiction

@[simp] theorem get_map (change : α → β) (signs : PerSign α) (role : SignRole) :
    (signs.map change).get role = change (signs.get role) := by
  cases role <;> rfl

theorem ext_get {first second : PerSign α} (same : ∀ role, first.get role = second.get role) :
    first = second := by
  cases first
  cases second
  simp only [PerSign.mk.injEq]
  exact ⟨same .fore, same .back, same .stop, same .openBracket, same .closeBracket⟩

theorem toList_eq_map_get (signs : PerSign α) : signs.toList = SignRole.all.map signs.get := rfl

end PerSign

/-- A kind of values that may be given as signs. Some of them are texts, and a message shows each of
them in a form of its own, unless that fails. -/
class SignValue (ν : Type) (ε : outParam Type) where
  ofText : String → ν
  text? : ν → Option String
  shown : ν → Except ε String
  text?_ofText : ∀ text, text? (ofText text) = some text

instance : SignValue Value ShowFault where
  ofText := .text
  text?
    | .text text => some text
    | _ => none
  shown := Value.shown
  text?_ofText _ := rfl

instance : SignValue String Empty where
  ofText text := text
  text? := some
  shown text := .ok (Text.quote text)
  text?_ofText _ := rfl

/-- What is wrong with a set of signs. A collision names the earlier role first. -/
inductive SignFault where
  | notCharacter (role : SignRole) (shown : String)
  | digit (role : SignRole) (sign : Char)
  | shared (earlier role : SignRole) (sign : Char)

namespace SignFault

def message : SignFault → String
  | notCharacter role shown =>
    "Sign '" ++ role.key ++ "' must be a single character, got " ++ shown
  | digit role sign =>
    "Sign '" ++ role.key ++ "' must not be a digit, got " ++ Text.quote (String.singleton sign)
  | shared earlier role sign =>
    "Signs '" ++ earlier.key ++ "' and '" ++ role.key ++ "' share the same character "
      ++ Text.quote (String.singleton sign)

end SignFault

inductive SignRefusal (ε : Type) where
  | fault (fault : SignFault)
  | unshown (fault : ε)

structure Signs extends PerSign Char where
  distinct : toPerSign.toList.Nodup
  noDigit : ∀ sign ∈ toPerSign.toList, Text.isPlainDigit sign = false

namespace Signs

def standardSigns : PerSign Char :=
  { fore := '%', back := '&', stop := '~', openBracket := '\x7b', closeBracket := '\x7d' }

def standard : Signs where
  toPerSign := standardSigns
  distinct := by simp [standardSigns, PerSign.toList]
  noDigit := by simp [standardSigns, PerSign.toList, Text.isPlainDigit]

instance : DecidableEq Signs := fun first second =>
  decidable_of_iff (first.toPerSign = second.toPerSign) (by cases first; cases second; simp)

section Values

variable {ν ε : Type} [SignValue ν ε]

def character? (value : ν) : Option Char :=
  match (SignValue.text? value).map String.toList with
  | some [character] => some character
  | _ => none

def refuseValue (role : SignRole) (value : ν) : SignRefusal ε :=
  match SignValue.shown value with
  | .ok shown => .fault (.notCharacter role shown)
  | .error fault => .unshown fault

def checkSign (seen : List (SignRole × Char)) (role : SignRole) (value : ν) :
    Except (SignRefusal ε) Char :=
  match character? value with
  | none => .error (refuseValue role value)
  | some sign =>
    if Text.isPlainDigit sign then .error (.fault (.digit role sign))
    else match seen.find? fun earlier => earlier.2 == sign with
      | some earlier => .error (.fault (.shared earlier.1 role sign))
      | none => .ok sign

theorem checkSign_ok {seen : List (SignRole × Char)} {role : SignRole} {value : ν} {sign : Char}
    (accepted : checkSign seen role value = .ok sign) :
    Text.isPlainDigit sign = false ∧ ∀ earlier ∈ seen, earlier.2 ≠ sign := by
  unfold checkSign at accepted
  split at accepted
  · contradiction
  · split at accepted
    · contradiction
    · rename_i character _ notDigit
      split at accepted
      · contradiction
      · rename_i unseen
        injection accepted with same
        subst same
        refine ⟨by simpa using notDigit, ?_⟩
        intro earlier member equal
        exact List.find?_eq_none.mp unseen earlier member (by simpa using equal)

def ofValues (values : PerSign ν) : Except (SignRefusal ε) Signs :=
  match foreCheck : checkSign [] .fore values.fore with
  | .error fault => .error fault
  | .ok fore =>
  match backCheck : checkSign [(.fore, fore)] .back values.back with
  | .error fault => .error fault
  | .ok back =>
  match stopCheck : checkSign [(.fore, fore), (.back, back)] .stop values.stop with
  | .error fault => .error fault
  | .ok stop =>
  match openCheck : checkSign [(.fore, fore), (.back, back), (.stop, stop)]
      .openBracket values.openBracket with
  | .error fault => .error fault
  | .ok openBracket =>
  match closeCheck : checkSign
      [(.fore, fore), (.back, back), (.stop, stop), (.openBracket, openBracket)]
      .closeBracket values.closeBracket with
  | .error fault => .error fault
  | .ok closeBracket =>
    .ok {
      fore, back, stop, openBracket, closeBracket
      distinct := by
        have backNew := (checkSign_ok backCheck).2
        have stopNew := (checkSign_ok stopCheck).2
        have openNew := (checkSign_ok openCheck).2
        have closeNew := (checkSign_ok closeCheck).2
        simp only [List.mem_cons, List.not_mem_nil, or_false, forall_eq_or_imp, forall_eq] at *
        simp [PerSign.toList, backNew, stopNew, openNew, closeNew]
      noDigit := by
        simp [PerSign.toList, (checkSign_ok foreCheck).1, (checkSign_ok backCheck).1,
          (checkSign_ok stopCheck).1, (checkSign_ok openCheck).1, (checkSign_ok closeCheck).1] }

def values (signs : Signs) : PerSign ν :=
  signs.toPerSign.map fun sign => SignValue.ofText (String.singleton sign)

/-- The standard signs with those of a table in their place; other keys do not count. -/
def ofTable (table : List (String × ν)) : Except (SignRefusal ε) Signs :=
  ofValues
    (table.foldl
      (fun values entry =>
        match SignRole.ofKey? entry.1 with
        | some role => values.set role entry.2
        | none => values)
      standard.values)

end Values

def toTable (signs : Signs) : List (String × Char) :=
  SignRole.all.map fun role => (role.key, signs.get role)

def display (signs : Signs) : String :=
  "Signs(" ++ ", ".intercalate
    (SignRole.all.map fun role =>
      role.key ++ "=" ++ Text.quote (String.singleton (signs.get role))) ++ ")"

end Signs

end ColorMarkup
