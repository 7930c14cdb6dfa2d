import ColorMarkup.Color
import ColorMarkup.Text.Blank
import ColorMarkup.Text.Case
import ColorMarkup.Text.Replace

/-!
Choices among named options. A name is matched without regard to case, blanks around it, or the
difference between a dash and an underscore.
-/

namespace ColorMarkup.Cli

structure Choice (α : Type) where
  title : String
  options : List α
  name : α → String

namespace Choice

variable {α : Type}

def joinDash (character : Char) : Char :=
  if character = '-' then '_' else character

def normalize (text : List Char) : List Char :=
  (Text.lower (Text.trim text)).map joinDash

def names (choice : Choice α) : List String :=
  choice.options.map choice.name

def find? (choice : Choice α) (text : List Char) : Option α :=
  choice.options.find? fun option => normalize (choice.name option).toList == normalize text

def completions (choice : Choice α) (start : List Char) : List String :=
  choice.names.filter fun name => Text.startsWith (normalize name.toList) (normalize start)

def refusal (choice : Choice α) (text : String) : String :=
  "Invalid value '" ++ text ++ "'. Must be one of: " ++ ", ".intercalate choice.names

def placeholder (choice : Choice α) : String :=
  String.ofList (Text.upper choice.title.toList)

def label (choice : Choice α) : String :=
  String.ofList (Text.lower choice.title.toList)

def display (choice : Choice α) : String :=
  "EnumChoiceParam(" ++ choice.title ++ ")"

end Choice

def colorChoice : Choice Color where
  title := "TermColor"
  options := Color.all
  name := Color.name

end ColorMarkup.Cli
