import ColorMarkup.Proofs.Encoding
import ColorMarkup.Proofs.Layering
import ColorMarkup.Proofs.PartialMerge
import ColorMarkup.Proofs.ShownConfig

/-!
Sources that cannot be used. A source whose contents are foreseen gives its table or a fault of the
configuration. Where that holds of all sources, and they can be looked at and their integers shown,
a run never ends in a way that nothing foresaw.
-/

namespace ColorMarkup

namespace LoadFault

def IsConfig (fault : LoadFault) : Prop :=
  ∃ own, fault = .config own

end LoadFault

namespace Layer

/-- Every known key that is there holds a value of its type; signs may also be nothing at all. -/
structure Mergeable (layer : Layer) : Prop where
  booleans : ∀ key ∈ [Config.restoreDefaultsKey, Config.newlineKey], ∀ value,
    Value.lookup? layer.table key = some value → ∃ setting, value = .boolean setting
  signs : ∀ value, Value.lookup? layer.table Config.signsKey = some value → value ≠ .null →
    ∃ signs, value = .table signs ∧ SignsTyped signs

end Layer

namespace Merging

theorem faultless_of_andThen {merging : Merging} {step : Draft → Merging}
    (goes : (merging.andThen step).fault = none) :
    merging.fault = none ∧ (step merging.draft).fault = none := by
  unfold andThen at goes
  split at goes
  · rename_i fault failed
    rw [failed] at goes
    contradiction
  · rename_i passed
    exact ⟨passed, goes⟩

end Merging

namespace Draft

variable {source : String}

theorem boolean_of_mergeBoolean {key : String} {table : Entries} {set : Draft → Bool → Draft}
    {draft : Draft} (goes : (mergeBoolean source key table set draft).fault = none) {value : Value}
    (found : Value.lookup? table key = some value) : ∃ setting, value = .boolean setting := by
  unfold mergeBoolean at goes
  rw [found] at goes
  split at goes
  · contradiction
  · rename_i setting same
    injection same with same
    exact ⟨setting, same⟩
  · contradiction

theorem signsTyped_of_mergeSigns {signs : Entries} {draft : Draft}
    (goes : (mergeSigns source signs draft).fault = none) : Layer.SignsTyped signs := by
  induction signs generalizing draft with
  | nil => exact fun entry member => absurd member List.not_mem_nil
  | cons entry rest ih =>
    obtain ⟨key, value⟩ := entry
    intro other member known
    unfold mergeSigns at goes
    split at goes
    · rename_i foreign
      rcases List.mem_cons.mp member with rfl | later
      · obtain ⟨role, _, same⟩ := List.mem_map.mp known
        exact absurd same.symm (SignRole.key_ne_of_ofKey?_eq_none foreign role)
      · exact ih (Merging.faultless_of_andThen goes).2 other later known
    · rename_i role sign _
      rcases List.mem_cons.mp member with rfl | later
      · exact ⟨sign, rfl⟩
      · exact ih goes other later known
    · contradiction

theorem mergeable_of_merge {layer : Layer} {draft : Draft}
    (goes : (draft.merge layer.label layer.table).fault = none) : layer.Mergeable := by
  obtain ⟨before, _⟩ := Merging.faultless_of_andThen goes
  obtain ⟨before, signed⟩ := Merging.faultless_of_andThen before
  obtain ⟨before, ending⟩ := Merging.faultless_of_andThen before
  obtain ⟨_, restoring⟩ := Merging.faultless_of_andThen before
  refine ⟨?_, ?_⟩
  · intro key known value found
    simp only [List.mem_cons, List.not_mem_nil, or_false] at known
    rcases known with rfl | rfl
    · exact boolean_of_mergeBoolean restoring found
    · exact boolean_of_mergeBoolean ending found
  · intro value found something
    unfold mergeSignTable at signed
    rw [found] at signed
    split at signed
    · contradiction
    · rename_i same
      injection same with same
      exact absurd same something
    · rename_i signs same
      injection same with same
      exact ⟨signs, same, signsTyped_of_mergeSigns signed⟩
    · contradiction

end Draft

namespace Config

/-- Contents of a file that loading foresees: they are encoded text, and the document is well formed
or broken in its notation. In particular no key is set twice below a header or in an inline table,
and no header declares a table that dotted keys have made. -/
def Foreseen (octets : List UInt8) : Prop :=
  ∃ text, octets = Text.encode text
    ∧ ∀ flaw, Toml.parse .tolerant (Text.unifyLineEnds text) = .error flaw → flaw = .malformed

theorem foreseen_encode {text : List Char} :
    Foreseen (Text.encode text) ↔ ∀ flaw,
      Toml.parse .tolerant (Text.unifyLineEnds text) = .error flaw → flaw = .malformed := by
  constructor
  · rintro ⟨other, encoded, broken⟩
    have decoded := Text.decode_eq_ok.mpr encoded
    rw [Text.decode_eq_ok.mpr rfl] at decoded
    injection decoded with same
    rw [same]
    exact broken
  · intro broken
    exact ⟨text, rfl, broken⟩

theorem readTable_foreseen (tree : FileTree) (path : Path) :
    (∀ octets, tree.read path = .ok octets → Foreseen octets)
      ↔ ∀ fault, readTable tree path = .error fault → fault.IsConfig := by
  unfold readTable
  cases tree.read path with
  | error fault => simp [LoadFault.IsConfig]
  | ok octets =>
    simp only [Except.ok.injEq, forall_eq']
    cases decoded : Text.decode octets with
    | error fault =>
      constructor
      · rintro ⟨text, encoded, _⟩
        rw [Text.decode_eq_ok.mpr encoded] at decoded
        contradiction
      · intro expected
        obtain ⟨own, same⟩ := expected _ rfl
        contradiction
    | ok text =>
      rw [Text.decode_eq_ok.mp decoded, foreseen_encode]
      dsimp only
      cases parsed : Toml.parse .tolerant (Text.unifyLineEnds text) with
      | ok table => simp
      | error flaw => cases flaw <;> simp [LoadFault.IsConfig]

/-- A path that loading copes with: where nothing is found nothing is there, contents are foreseen,
and all integers among them can be shown. -/
structure Sound (tree : FileTree) (path : Path) : Prop where
  reached : ∀ fault, tree.find path = .barred fault → fault.isAbsence = true
  foreseen : ∀ octets, tree.read path = .ok octets → Foreseen octets
  showable : ∀ table, readTable tree path = .ok table → (Value.table table).Showable

theorem sound_of_missing {tree : FileTree} {path : Path} (absent : tree.find path = .missing) :
    Sound tree path := by
  have unread : tree.read path = .error .missing := by
    rw [FileTree.read, absent]
    rfl
  constructor
  · intro fault found
    rw [absent] at found
    injection found with same
    exact same ▸ rfl
  · intro octets read
    rw [unread] at read
    cases read
  · intro table read
    rw [readTable, unread] at read
    cases read

theorem sound_of_parse {tree : FileTree} {path : Path} {text : List Char} {table : Entries}
    (present : tree.find path = .file (Text.encode text))
    (parsed : Toml.parse .tolerant (Text.unifyLineEnds text) = .ok table)
    (showable : (Value.table table).Showable) : Sound tree path := by
  have content := FileTree.read_of_find present
  constructor
  · intro fault found
    rw [present] at found
    cases found
  · intro octets read
    rw [content] at read
    injection read with same
    subst same
    refine foreseen_encode.mpr fun flaw refused => ?_
    rw [parsed] at refused
    cases refused
  · intro other read
    rw [readTable, content] at read
    simp only [Text.decode_eq_ok.mpr rfl, parsed] at read
    injection read with same
    exact same ▸ showable

def consulted (request : Request) : List Path :=
  (if request.discover then
    [request.directory.child projectFileName, request.directory.child fileName]
  else []) ++ request.explicit.toList

/-- Every source that is there can be read, and its settings have their types. -/
def Loadable (tree : FileTree) (request : Request) : Prop :=
  ∃ found, layers tree request = .ok found ∧ ∀ layer ∈ found, layer.Mergeable

/-- A layering after the layers of some files: unless a fault has ended it, all of them have been
read and could be merged; if the files are sound, a fault is one of the configuration. -/
structure Layering.Reflects (tree : FileTree) (paths : List Path)
    (found : Except LoadFault (List Layer)) (layering : Layering) : Prop where
  faultless : layering.fault = none →
    ∃ layers, found = .ok layers ∧ ∀ layer ∈ layers, layer.Mergeable
  faulty : (∀ path ∈ paths, Sound tree path) → ∀ fault, layering.fault = some fault → fault.IsConfig

variable {tree : FileTree} {layering next : Layering} {paths more : List Path}
  {first second : Except LoadFault (List Layer)}

theorem Layering.Reflects.andThen (reflects : next.Reflects tree paths first)
    {step : Layering → Layering}
    (goesOn : next.fault = none → (step next).Reflects tree more second) :
    (next.andThen step).Reflects tree (paths ++ more) (do
      let before ← first
      let after ← second
      .ok (before ++ after)) := by
  cases ended : next.fault with
  | some fault =>
    have stays : next.andThen step = next := by simp [Layering.andThen, ended]
    rw [stays]
    constructor
    · intro goes
      rw [goes] at ended
      contradiction
    · intro sound
      exact reflects.faulty fun path listed => sound path (List.mem_append_left more listed)
  | none =>
    have goes : next.andThen step = step next := by simp [Layering.andThen, ended]
    obtain ⟨layers, rfl, typed⟩ := reflects.faultless ended
    have later := goesOn ended
    rw [goes]
    constructor
    · intro finished
      obtain ⟨others, rfl, othersTyped⟩ := later.faultless finished
      exact ⟨layers ++ others, rfl, List.forall_mem_append.mpr ⟨typed, othersTyped⟩⟩
    · intro sound
      exact later.faulty fun path listed => sound path (List.mem_append_right paths listed)

/-- What is read at a sound path: a table whose integers can be shown, or a fault of the
configuration. -/
structure Reads (tree : FileTree) (path : Path) (table? : Except LoadFault (Option Entries)) :
    Prop where
  faulty : Sound tree path → ∀ fault, table? = .error fault → fault.IsConfig
  showable : Sound tree path → ∀ table, table? = .ok (some table) → (Value.table table).Showable

theorem Sound.isConfig {path : Path} (sound : Sound tree path) {fault : LoadFault}
    (failed : readTable tree path = .error fault) : fault.IsConfig :=
  (readTable_foreseen tree path).mp sound.foreseen fault failed

theorem reads_readWhole (tree : FileTree) (path : Path) :
    Reads tree path (readWhole tree path) := by
  unfold readWhole
  cases read : readTable tree path with
  | error fault =>
    constructor
    · rintro sound _ ⟨⟩
      exact sound.isConfig read
    · intro _ table found
      contradiction
  | ok table =>
    constructor
    · intro _ fault failed
      contradiction
    · rintro sound _ ⟨⟩
      exact sound.showable table read

theorem reads_readSection (tree : FileTree) (path : Path) :
    Reads tree path (readSection tree path) := by
  unfold readSection
  cases read : readTable tree path with
  | error fault =>
    constructor
    · rintro sound _ ⟨⟩
      exact sound.isConfig read
    · intro _ table found
      contradiction
  | ok table =>
    simp only [bind, Except.bind]
    constructor
    · intro _ fault failed
      split at failed
      · contradiction
      · contradiction
      · injection failed with same
        exact ⟨_, same.symm⟩
    · intro sound settings found
      split at found
      · cases found
      · rename_i inner section?
        injection found with same
        injection same with same
        subst same
        split at section?
        · rename_i tools tool
          have whole := Value.showable_table.mp (sound.showable table read)
          have outer := Value.showable_table.mp (whole _ (Value.mem_of_lookup? tool))
          exact outer _ (Value.mem_of_lookup? section?)
        · contradiction
      · contradiction

theorem Sound.exists_isFile {path : Path} (sound : Sound tree path) :
    ∃ there, isFile tree path = .ok there := by
  unfold isFile
  cases found : tree.find path with
  | barred fault =>
    rw [FileEntry.isFile, if_pos (sound.reached fault found)]
    exact ⟨false, rfl⟩
  | directory => exact ⟨false, rfl⟩
  | file octets => exact ⟨true, rfl⟩
  | unreadable fault => exact ⟨true, rfl⟩

theorem Reads.ifFile {path : Path} {table? other? : Except LoadFault (Option Entries)}
    (reads : Reads tree path table?) (otherwise : Reads tree path other?) :
    Reads tree path (do if ← isFile tree path then table? else other?) := by
  constructor
  · intro sound fault failed
    obtain ⟨there, looked⟩ := sound.exists_isFile
    rw [looked] at failed
    cases there with
    | true => exact reads.faulty sound fault failed
    | false => exact otherwise.faulty sound fault failed
  · intro sound table found
    obtain ⟨there, looked⟩ := sound.exists_isFile
    rw [looked] at found
    cases there with
    | true => exact reads.showable sound table found
    | false => exact otherwise.showable sound table found

theorem reads_readDiscovered {path : Path}
    {read : FileTree → Path → Except LoadFault (Option Entries)}
    (reads : Reads tree path (read tree path)) :
    Reads tree path (readDiscovered tree path read) := by
  refine reads.ifFile ⟨?_, ?_⟩
  · intro _ fault failed
    cases failed
  · intro _ table found
    cases found

theorem reads_readNamed (tree : FileTree) (path : Path) :
    Reads tree path (readNamed tree path) := by
  refine (reads_readWhole tree path).ifFile ⟨?_, ?_⟩
  · rintro _ _ ⟨⟩
    exact ⟨_, rfl⟩
  · intro _ table found
    contradiction

theorem reflects_nothing (goes : layering.fault = none) (paths : List Path) :
    layering.Reflects tree paths (.ok []) := by
  constructor
  · intro _
    exact ⟨[], rfl, by simp⟩
  · intro _ fault failed
    rw [goes] at failed
    contradiction

theorem reflects_addLayer {path : Path} {table? : Except LoadFault (Option Entries)}
    (reads : Reads tree path table?) (goes : layering.fault = none) :
    (layering.addLayer (tree.label path) table?).Reflects tree [path]
      (layersAt tree path table?) := by
  cases table? with
  | error fault =>
    constructor
    · intro finished
      contradiction
    · rintro sound _ ⟨⟩
      exact reads.faulty (sound path (List.mem_singleton_self path)) fault rfl
  | ok table? =>
    cases table? with
    | none => exact reflects_nothing goes [path]
    | some table =>
      constructor
      · intro finished
        have merged := Option.map_eq_none_iff.mp finished
        have mergeable : ({ label := tree.label path, table } : Layer).Mergeable :=
          Draft.mergeable_of_merge merged
        exact ⟨_, rfl, by simpa using mergeable⟩
      · intro sound fault failed
        obtain ⟨own, merged, rfl⟩ := Option.map_eq_some_iff.mp failed
        obtain ⟨reported, rfl⟩ := Draft.isConfig_of_merge merged
          (reads.showable (sound path (List.mem_singleton_self path)) table rfl)
        exact ⟨reported, rfl⟩

theorem reflects_build (tree : FileTree) (request : Request) :
    (build tree request).Reflects tree (consulted request) (layers tree request) := by
  let start : Layering := { draft := { sources := ["defaults"] } }
  have goes : start.fault = none := rfl
  have discovery : (if request.discover then
        (discovered tree (request.directory.child projectFileName) readSection start).andThen
          (discovered tree (request.directory.child fileName) readWhole)
      else start).Reflects tree
        (if request.discover then
          [request.directory.child projectFileName, request.directory.child fileName] else [])
        (discoveredLayers tree request) := by
    unfold discoveredLayers
    split
    · exact (reflects_addLayer (reads_readDiscovered (reads_readSection tree _)) goes).andThen
        (reflects_addLayer (reads_readDiscovered (reads_readWhole tree _)))
    · exact reflects_nothing goes []
  unfold build consulted layers
  cases request.explicit with
  | none =>
    have nothing : (do
        let discovered ← discoveredLayers tree request
        let named ← namedLayers tree none
        .ok (discovered ++ named)) = discoveredLayers tree request := by
      cases discoveredLayers tree request with
      | error fault => rfl
      | ok found => exact congrArg Except.ok (List.append_nil found)
    rw [nothing, Option.toList_none, List.append_nil]
    exact discovery
  | some path => exact discovery.andThen (reflects_addLayer (reads_readNamed tree path))

theorem load_sound {request : Request} (sound : ∀ path ∈ consulted request, Sound tree path)
    {fault : LoadFault} (failed : (load tree request).result = .error fault) :
    fault.IsConfig ∨ ∃ own, fault = .signs own := by
  have reflects := reflects_build tree request
  unfold load at failed
  cases ended : (build tree request).fault with
  | some other =>
    simp only [ended] at failed
    injection failed with same
    subst same
    exact .inl (reflects.faulty sound other ended)
  | none =>
    simp only [ended] at failed
    split at failed
    · rename_i own _
      injection failed with same
      exact .inr ⟨own, same.symm⟩
    · contradiction

theorem load_refused {request : Request} (bad : ¬Loadable tree request) :
    ∃ fault, (load tree request).result = .error fault := by
  cases ended : (build tree request).fault with
  | some fault => exact ⟨fault, by simp [load, ended]⟩
  | none => exact absurd ((reflects_build tree request).faultless ended) bad

end Config

namespace Cli

def Command.Configured : Command → Prop
  | .check .. => True
  | .config => True
  | .render .. => True
  | .colors .. => False
  | .version .. => False

namespace Session

variable {session : Session}

theorem perform_refused {command : Command} (configured : command.Configured)
    {refusal : ConfigRefusal}
    (refused : (session.source.load session.files).2 = .error refusal) :
    (session.perform command).ending = .failed refusal.toFailure := by
  cases command with
  | check text colors format => exact (withConfig_refused refused _).2
  | config => exact (withConfig_refused refused _).2
  | render text colors newline keepColors => exact (withConfig_refused refused _).2
  | colors background => exact configured.elim
  | version format => exact configured.elim

theorem exitCode_judge (usual : session.streams = {}) {config : Config}
    (loaded : (session.source.load session.files).2 = .ok config) (operand : String)
    (colors : List Color) : (session.judge operand colors).exitCode ≠ 255 := by
  rw [judge, loaded, textFault_usual usual]
  show (Ending.ofOutcome _).exitCode ≠ 255
  rw [Ending.exitCode_ofOutcome]
  split <;> decide

theorem perform_loaded (usual : session.streams = {}) {command : Command}
    (configured : command.Configured) {config : Config}
    (loaded : (session.source.load session.files).2 = .ok config) :
    (session.perform command).ending.exitCode ≠ 255 := by
  cases command with
  | check text colors format =>
    have judged : (session.perform (.check text colors format)).ending.exitCode
        = (session.judge text colors).exitCode := by
      cases format with
      | text => exact congrArg Ending.exitCode ending_check
      | json => exact exitCode_check_json
    rw [judged]
    exact exitCode_judge usual loaded text colors
  | config =>
    have ending : (session.perform .config).ending = .done := ending_config usual loaded
    rw [ending]
    decide
  | render text colors newline keepColors =>
    have ending : (session.perform (.render text colors newline keepColors)).ending
        = session.judge text colors := ending_render (holds_usual usual _) newline keepColors
    rw [ending]
    exact exitCode_judge usual loaded text colors
  | colors background => exact configured.elim
  | version format => exact configured.elim

end Session

def ConfigSource.refusalKind (source : ConfigSource) (files : FileTree) : FailureKind :=
  match source.refusal? files with
  | some (.missing _) => .fileNotFound
  | _ => .config

namespace ConfigSource

variable {source : ConfigSource} {files : FileTree}

def request (source : ConfigSource) : Config.Request where
  explicit := source.explicit
  discover := source.discover

theorem load_refused {refusal : ConfigRefusal} (early : source.refusal? files = some refusal) :
    (source.load files).2 = .error refusal := by
  simp [load, early]

theorem load_present (present : source.refusal? files = none) :
    (source.load files).2 = (Config.load files source.request).result.mapError .loading := by
  simp [load, present, request]

theorem missing_of_refusal?
    (sound : ∀ path ∈ Config.consulted source.request, Config.Sound files path)
    {refusal : ConfigRefusal} (early : source.refusal? files = some refusal) :
    ∃ label, refusal = .missing label := by
  obtain ⟨path, explicit, looked⟩ := Option.bind_eq_some_iff.mp early
  have listed : path ∈ Config.consulted source.request := by
    simp [Config.consulted, request, explicit]
  cases found : files.find path with
  | barred fault =>
    have absent := (sound path listed).reached fault found
    simp only [found, FileEntry.isPresent, absent, if_true, Option.some.injEq] at looked
    exact ⟨_, looked.symm⟩
  | directory => simp [found, FileEntry.isPresent] at looked
  | file octets => simp [found, FileEntry.isPresent] at looked
  | unreadable fault => simp [found, FileEntry.isPresent] at looked

theorem kind_of_refused
    (sound : ∀ path ∈ Config.consulted source.request, Config.Sound files path)
    {refusal : ConfigRefusal} (refused : (source.load files).2 = .error refusal) :
    refusal.toFailure.kind = source.refusalKind files := by
  unfold refusalKind
  cases early : source.refusal? files with
  | some other =>
    obtain ⟨label, rfl⟩ := missing_of_refusal? sound early
    rw [load_refused early] at refused
    injection refused with same
    subst same
    rfl
  | none =>
    rw [load_present early] at refused
    cases loaded : (Config.load files source.request).result with
    | ok config =>
      rw [loaded] at refused
      cases refused
    | error fault =>
      rw [loaded] at refused
      injection refused with same
      subst same
      rcases Config.load_sound sound loaded with ⟨own, rfl⟩ | ⟨own, rfl⟩ <;> rfl

theorem exists_refusal {fault : LoadFault}
    (failed : (Config.load files source.request).result = .error fault) :
    ∃ refusal, (source.load files).2 = .error refusal := by
  cases early : source.refusal? files with
  | some refusal => exact ⟨refusal, load_refused early⟩
  | none =>
    rw [load_present early, failed]
    exact ⟨_, rfl⟩

end ConfigSource

/-- A run that needs the configuration reports every source that cannot be used, as long as the
sources are sound, whatever its input and output take. Only contents that nothing foresees give
another fault than one of the configuration. -/
theorem bad_sources_reported {invocation : Invocation} {surroundings : Surroundings}
    {options : Options} {verbosity : Verbosity} {level? : Option Log.Level} {command : Command}
    (performs : invocation.Performs surroundings options verbosity level? command)
    (configured : command.Configured) :
    let files := surroundings.files
    let source := (Session.opened surroundings options verbosity).source
    let loaded := (Config.load files source.request).result
    let code (streams : Streams) := (invocation.run surroundings streams).exitCode
    (∀ path, (∀ octets, files.read path = .ok octets → Config.Foreseen octets)
        ↔ ∀ fault, Config.readTable files path = .error fault → fault.IsConfig)
      ∧ (¬Config.Loadable files source.request → ∃ fault, loaded = .error fault)
      ∧ ((∀ path ∈ Config.consulted source.request, Config.Sound files path) →
        (∀ fault, loaded = .error fault → fault.IsConfig ∨ ∃ own, fault = .signs own)
          ∧ (∀ refusal, (source.load files).2 = .error refusal →
            refusal.toFailure.kind = source.refusalKind files)
          ∧ (∀ fault, loaded = .error fault →
            ∀ streams, code streams = (source.refusalKind files).exitCode)
          ∧ code {} ≠ 255) := by
  intro files source loaded code
  refine ⟨Config.readTable_foreseen files, Config.load_refused, ?_⟩
  intro sound
  have kinds {refusal : ConfigRefusal} (refused : (source.load files).2 = .error refusal) :
      refusal.toFailure.kind = source.refusalKind files :=
    ConfigSource.kind_of_refused sound refused
  have ends (streams : Streams) : code streams
      = ((Session.opened surroundings options verbosity streams).perform command).ending.exitCode :=
    performs.run_fields.2
  have refusedCode {refusal : ConfigRefusal} (refused : (source.load files).2 = .error refusal)
      (streams : Streams) : code streams = (source.refusalKind files).exitCode := by
    have ending : ((Session.opened surroundings options verbosity streams).perform command).ending
        = .failed refusal.toFailure := Session.perform_refused configured refused
    rw [ends, ending, ← kinds refused]
    rfl
  refine ⟨fun fault failed => Config.load_sound sound failed, fun _ => kinds, ?_, ?_⟩
  · intro fault failed
    obtain ⟨refusal, refused⟩ := ConfigSource.exists_refusal failed
    exact refusedCode refused
  · cases got : (source.load files).2 with
    | error refusal =>
      rw [refusedCode got {}, ConfigSource.refusalKind]
      split <;> decide
    | ok config =>
      rw [ends]
      exact Session.perform_loaded rfl configured got

/-- A setting of the wrong type, in a file that is sound. -/
theorem bad_sources_reported_ill_typed :
    let written := "newline = 1\n".toList
    let surroundings : Surroundings := {
      files := {
        workingDirectory := "/work"
        entries := [(["colorformat.toml"], .file (Text.encode written))] } }
    (∀ path ∈ Config.consulted {}, Config.Sound surroundings.files path)
      ∧ (({ arguments := ["config"] } : Invocation).run surroundings).exitCode = 78 := by
  intro written surroundings
  have failed : (Config.load surroundings.files {}).result.isOk = false := by
    decide +kernel +revert
  have project : surroundings.files.find (Path.workingDirectory.child Config.projectFileName)
      = .missing := by
    decide +kernel +revert
  have own : surroundings.files.find (Path.workingDirectory.child Config.fileName)
      = .file (Text.encode written) := by
    decide +kernel +revert
  have sound : ∀ path ∈ Config.consulted {}, Config.Sound surroundings.files path := by
    show ∀ path ∈ [Path.workingDirectory.child Config.projectFileName,
      Path.workingDirectory.child Config.fileName], _
    intro path listed
    simp only [List.mem_cons, List.not_mem_nil, or_false] at listed
    rcases listed with rfl | rfl
    · exact Config.sound_of_missing project
    · have shown : ((Toml.parse .tolerant (Text.unifyLineEnds written)).toOption.map
          fun table => (Value.table table).isShowable) = some true := by
        decide +kernel +revert
      cases parsed : Toml.parse .tolerant (Text.unifyLineEnds written) with
      | error flaw =>
        rw [parsed] at shown
        cases shown
      | ok table =>
        rw [parsed] at shown
        injection shown with showable
        exact Config.sound_of_parse own parsed ((Value.isShowable_iff _).mp showable)
  have performs : ({ arguments := ["config"] } : Invocation).Performs surroundings {} 0 none
      .config :=
    { read := ⟨.config, [], rfl, rfl⟩, verbosity := rfl, level := rfl }
  obtain ⟨_, _, reported⟩ := bad_sources_reported performs trivial
  obtain ⟨_, _, code, _⟩ := reported sound
  refine ⟨sound, ?_⟩
  cases loaded : (Config.load surroundings.files {}).result with
  | ok config =>
    rw [loaded] at failed
    cases failed
  | error fault => exact code fault loaded {}

/-- Contents that are no text, a key that is set twice below a header, an integer with too many
digits to be shown, and a directory that must not be searched. -/
theorem unforeseen_sources_unexpected :
    let exitCode (arguments : List String) (place : List String) (entry : FileEntry) : Nat :=
      (({ arguments } : Invocation).run {
        files := { workingDirectory := "/work", entries := [(place, entry)] } }).exitCode
    let exitCodeAt (text : List Char) : Nat :=
      exitCode ["config"] ["colorformat.toml"] (.file (Text.encode text))
    exitCode ["config"] ["colorformat.toml"] (.file [0xff]) = 255
      ∧ exitCodeAt "[signs]\nfore = \"a\"\nfore = \"b\"\n".toList = 255
      ∧ exitCodeAt ("newline = 0x".toList ++ List.replicate 3600 'f') = 255
      ∧ exitCode ["--config", "closed/own.toml", "config"] ["closed", "own.toml"]
        (.barred .denied) = 255 := by
  decide +kernel

end Cli

end ColorMarkup
