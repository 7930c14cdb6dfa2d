import ColorMarkup.Config.Basic

/-!
Laying the settings of a table over a draft. Keys outside the known ones are passed over with a
warning. A setting of the wrong type ends the merge; what stood before it has been applied.
-/

namespace ColorMarkup

inductive ConfigFault where
  | notBoolean (source key shown : String)
  | signsNotTable (source : String)
  | signNotText (source : String) (role : SignRole) (shown : String)
  | unreadable (path cause : String)
  | malformed (path : String)
  | sectionNotTable (path : String)
  | missing (path : String)

namespace ConfigFault

def message : ConfigFault → String
  | notBoolean source key shown => source ++ ": '" ++ key ++ "' must be a boolean, got " ++ shown
  | signsNotTable source => source ++ ": '[signs]' must be a table"
  | signNotText source role shown =>
    source ++ ": 'signs." ++ role.key ++ "' must be a string, got " ++ shown
  | unreadable path cause => "Cannot read configuration file " ++ path ++ ": " ++ cause
  | malformed path => "Invalid TOML in " ++ path ++ ": the document is malformed"
  | sectionNotTable path => path ++ ": [tool.colorformat] must be a table"
  | missing path => "Configuration file not found: " ++ path

end ConfigFault

inductive MergeFault where
  | config (fault : ConfigFault)
  | unshown (fault : ShowFault)

def MergeFault.ofValue (fault : String → ConfigFault) (value : Value) : MergeFault :=
  match value.shown with
  | .ok shown => .config (fault shown)
  | .error fault => .unshown fault

inductive ConfigNotice where
  | unknownKey (source key : String)
  | unknownSign (source key : String)
  | merged (source : String)
  | effective (config : Config)

namespace ConfigNotice

def record : ConfigNotice → Log.Record
  | unknownKey source key =>
    { level := Log.Level.warning, logger := "colorformat.config.model"
      message := source ++ ": ignoring unknown configuration key '" ++ key ++ "'" }
  | unknownSign source key =>
    { level := Log.Level.warning, logger := "colorformat.config.model"
      message := source ++ ": ignoring unknown key 'signs." ++ key ++ "'" }
  | merged source =>
    { level := Log.Level.debug, logger := "colorformat.config.model"
      message := "Merged configuration from " ++ source }
  | effective config =>
    { level := Log.Level.debug, logger := "colorformat.config.loaders"
      message := "Effective configuration: " ++ config.display }

end ConfigNotice

/-- A draft on which a step has been tried: the draft as it then is, the notices given, and the
fault that ended the step. -/
structure Merging where
  draft : Draft
  notices : List ConfigNotice := []
  fault : Option MergeFault := none

namespace Merging

def andThen (merging : Merging) (step : Draft → Merging) : Merging :=
  match merging.fault with
  | some _ => merging
  | none =>
    let next := step merging.draft
    { next with notices := merging.notices ++ next.notices }

end Merging

namespace Draft

def mergeBoolean (source key : String) (table : Entries) (set : Draft → Bool → Draft)
    (draft : Draft) : Merging :=
  match Value.lookup? table key with
  | none => { draft }
  | some (.boolean value) => { draft := set draft value }
  | some value => { draft, fault := some (.ofValue (.notBoolean source key) value) }

def mergeSigns (source : String) : Entries → Draft → Merging
  | [], draft => { draft }
  | (key, value) :: rest, draft =>
    match SignRole.ofKey? key, value with
    | none, _ =>
      ({ draft, notices := [.unknownSign source key] } : Merging).andThen (mergeSigns source rest)
    | some role, .text sign =>
      mergeSigns source rest { draft with signs := draft.signs.set role sign }
    | some role, value => { draft, fault := some (.ofValue (.signNotText source role) value) }

def mergeSignTable (source : String) (table : Entries) (draft : Draft) : Merging :=
  match Value.lookup? table Config.signsKey with
  | none | some .null => { draft }
  | some (.table signs) => mergeSigns source signs draft
  | some _ => { draft, fault := some (.config (.signsNotTable source)) }

def unknownKeys (source : String) (table : Entries) : List ConfigNotice :=
  (table.filter fun entry => !Config.rootKeys.contains entry.1).map fun entry =>
    .unknownKey source entry.1

def merge (source : String) (table : Entries) (draft : Draft) : Merging :=
  ({ draft, notices := unknownKeys source table } : Merging)
    |>.andThen (mergeBoolean source Config.restoreDefaultsKey table
        fun draft value => { draft with restoreDefaults := value })
    |>.andThen (mergeBoolean source Config.newlineKey table
        fun draft value => { draft with newline := value })
    |>.andThen (mergeSignTable source table)
    |>.andThen fun draft =>
      { draft := { draft with sources := draft.sources ++ [source] }, notices := [.merged source] }

end Draft

end ColorMarkup
