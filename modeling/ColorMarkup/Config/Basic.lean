import ColorMarkup.Log.Record
import ColorMarkup.Signs
import ColorMarkup.Toml.Writer

/-!
Configurations and the drafts they are made from. A draft collects the settings of several sources
and holds its signs as plain texts; freezing it checks the signs.
-/

namespace ColorMarkup

structure Config where
  signs : Signs := Signs.standard
  restoreDefaults : Bool := true
  newline : Bool := true
  sources : List String := []
deriving DecidableEq

/-- Settings being collected; the signs are not yet checked. -/
structure Draft where
  signs : PerSign String := Signs.standardSigns.map String.singleton
  restoreDefaults : Bool := true
  newline : Bool := true
  sources : List String := []
deriving DecidableEq

namespace Config

def restoreDefaultsKey : String := "restore_defaults"

def newlineKey : String := "newline"

def signsKey : String := "signs"

def rootKeys : List String :=
  [restoreDefaultsKey, newlineKey, signsKey]

def displayBoolean (value : Bool) : String :=
  if value then "True" else "False"

/-- The sources in parentheses; a single one is followed by a comma. -/
def displaySources : List String → String
  | [source] => "(" ++ Text.quote source ++ ",)"
  | sources => "(" ++ ", ".intercalate (sources.map Text.quote) ++ ")"

def display (config : Config) : String :=
  "Config(signs=" ++ config.signs.display
    ++ ", restore_defaults=" ++ displayBoolean config.restoreDefaults
    ++ ", newline=" ++ displayBoolean config.newline
    ++ ", sources=" ++ displaySources config.sources ++ ")"

def thaw (config : Config) : Draft where
  signs := config.signs.toPerSign.map String.singleton
  restoreDefaults := config.restoreDefaults
  newline := config.newline
  sources := config.sources

def toTable (config : Config) : Entries :=
  [(restoreDefaultsKey, .boolean config.restoreDefaults),
   (newlineKey, .boolean config.newline),
   (signsKey, .table (SignRole.all.map fun role =>
      (role.key, .text (String.singleton (config.signs.get role)))))]

def dump (config : Config) : List Char :=
  Toml.writeEntry restoreDefaultsKey (Toml.writeBoolean config.restoreDefaults)
    ++ Toml.writeEntry newlineKey (Toml.writeBoolean config.newline)
    ++ '\n' :: Toml.writeHeader signsKey
    ++ SignRole.all.flatMap fun role =>
      Toml.writeEntry role.key (Toml.writeString [config.signs.get role])

end Config

def SignRefusal.ofTexts : SignRefusal Empty → SignFault
  | .fault own => own

def Draft.freeze (draft : Draft) : Except SignFault Config :=
  match Signs.ofValues draft.signs with
  | .error refusal => .error refusal.ofTexts
  | .ok signs =>
    .ok {
      signs, restoreDefaults := draft.restoreDefaults, newline := draft.newline
      sources := draft.sources }

end ColorMarkup
