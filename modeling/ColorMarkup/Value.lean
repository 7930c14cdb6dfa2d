import ColorMarkup.Decimal.Shortest
import ColorMarkup.Moment
import ColorMarkup.Text.Digit

/-! The values that documents hold, and the form in which messages show them. -/

namespace ColorMarkup

open Decimal (Binary64)

/-- A table keeps its entries in the order in which they were first set. -/
inductive Value where
  | null
  | boolean (value : Bool)
  | integer (value : Int)
  | float (value : Binary64)
  | text (value : String)
  | moment (value : Moment)
  | array (items : List Value)
  | table (entries : List (String × Value))

abbrev Entries := List (String × Value)

namespace Value

/-- The last entry under a key counts. -/
def lookup? {α : Type} (entries : List (String × α)) (key : String) : Option α :=
  (entries.reverse.find? fun entry => entry.1 == key).map Prod.snd

mutual

def display : Value → String
  | null => "None"
  | boolean true => "True"
  | boolean false => "False"
  | integer value => toString value
  | float value => value.display
  | text value => Text.quote value
  | moment value => value.display
  | array items => "[" ++ displayItems items ++ "]"
  | table entries => "\x7b" ++ displayEntries entries ++ "\x7d"

def displayItems : List Value → String
  | [] => ""
  | [item] => item.display
  | item :: rest => item.display ++ ", " ++ displayItems rest

def displayEntries : List (String × Value) → String
  | [] => ""
  | [(key, value)] => Text.quote key ++ ": " ++ value.display
  | (key, value) :: rest => Text.quote key ++ ": " ++ value.display ++ ", " ++ displayEntries rest

end

def plain : Value → String
  | text value => value
  | other => other.display

mutual

def isShowable : Value → Bool
  | integer value => value.natAbs < Nat.pow 10 Text.numeralLimit
  | array items => areShowable items
  | table entries => areEntriesShowable entries
  | _ => true

def areShowable : List Value → Bool
  | [] => true
  | item :: rest => item.isShowable && areShowable rest

def areEntriesShowable : List (String × Value) → Bool
  | [] => true
  | (_, value) :: rest => value.isShowable && areEntriesShowable rest

end

end Value

inductive ShowFault where
  | tooLong
deriving DecidableEq

def ShowFault.message : ShowFault → String
  | tooLong => Text.tooManyDigits ++ Text.limitAdvice

def Value.shown (value : Value) : Except ShowFault String :=
  if value.isShowable then .ok value.display else .error .tooLong

end ColorMarkup
