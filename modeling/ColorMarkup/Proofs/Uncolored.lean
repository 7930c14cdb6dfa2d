import ColorMarkup.Proofs.Routine

/-!
Streams without colors. Such a stream carries the written characters and nothing else, and the
program notices no difference: it sees the same colors and outcomes as on a stream with colors,
whose output is the same once the sequences of graphic attributes are taken out of it.
-/

namespace ColorMarkup

namespace Terminal

def afterGraphic? : List Char → Option (List Char)
  | '\x1b' :: '[' :: rest =>
    match rest.dropWhile isParameter with
    | 'm' :: after => some after
    | _ => none
  | _ => none

theorem length_lt_of_afterGraphic? {text after : List Char}
    (found : afterGraphic? text = some after) : after.length < text.length := by
  unfold afterGraphic? at found
  split at found
  · rename_i rest
    split at found
    · rename_i tail
      injection found with same
      subst same
      have shorter := (List.dropWhile_sublist isParameter (l := rest)).length_le
      rw [tail] at shorter
      simp only [List.length_cons] at shorter ⊢
      omega
    · contradiction
  · contradiction

def withoutGraphics (text : List Char) : List Char :=
  match text with
  | [] => []
  | character :: rest =>
    match _found : afterGraphic? (character :: rest) with
    | some after => withoutGraphics after
    | none => character :: withoutGraphics rest
termination_by text.length
decreasing_by
  · exact length_lt_of_afterGraphic? _found
  · simp

theorem withoutGraphics_of_found {text after : List Char} (found : afterGraphic? text = some after) :
    withoutGraphics text = withoutGraphics after := by
  cases text with
  | nil => contradiction
  | cons character rest =>
    rw [withoutGraphics]
    split
    · rename_i other same
      injection same.symm.trans found with equal
      rw [equal]
    · rename_i missing
      rw [found] at missing
      contradiction

theorem withoutGraphics_of_missing {character : Char} {rest : List Char}
    (missing : afterGraphic? (character :: rest) = none) :
    withoutGraphics (character :: rest) = character :: withoutGraphics rest := by
  rw [withoutGraphics]
  split
  · rename_i found
    rw [missing] at found
    contradiction
  · rfl

theorem isParameter_of_mem_toString {number : Nat} {digit : Char}
    (member : digit ∈ (toString number).toList) : isParameter digit = true := by
  have plain := isPlainDigit_of_mem_toString member
  simp only [Text.isPlainDigit, isParameter, Bool.and_eq_true, decide_eq_true_eq] at plain ⊢
  exact ⟨plain.1, Char.le_trans plain.2 (by decide)⟩

theorem afterGraphic?_graphic (code : Nat) (rest : List Char) :
    afterGraphic? (graphic code ++ rest) = some rest := by
  have digits : ((toString code).toList ++ 'm' :: rest).dropWhile isParameter = 'm' :: rest := by
    rw [List.dropWhile_append_of_pos fun digit => isParameter_of_mem_toString]
    exact List.dropWhile_cons_of_neg (by decide)
  simp only [graphic, List.cons_append, List.append_assoc, List.nil_append, afterGraphic?, digits]

theorem afterGraphic?_of_plain {character : Char} (plain : character ≠ '\x1b') (rest : List Char) :
    afterGraphic? (character :: rest) = none := by
  unfold afterGraphic?
  split
  · rename_i same
    exact absurd (List.cons.inj same).1 plain
  · rfl

/-- An output that is a text without escapes, with sequences of graphic attributes between its
characters. -/
inductive Decorates : List Char → List Char → Prop
  | nil : Decorates [] []
  | character {character text output} : character ≠ '\x1b' → Decorates text output →
      Decorates (character :: text) (character :: output)
  | graphic {code text output} : Decorates text output → Decorates text (graphic code ++ output)

namespace Decorates

variable {text more output further : List Char}

theorem append (first : Decorates text output) (second : Decorates more further) :
    Decorates (text ++ more) (output ++ further) := by
  induction first with
  | nil => exact second
  | character plain _ ih => exact .character plain ih
  | graphic _ ih =>
    rw [List.append_assoc]
    exact .graphic ih

theorem of_plain (plain : '\x1b' ∉ text) : Decorates text text := by
  induction text with
  | nil => exact .nil
  | cons character rest ih =>
    simp only [List.mem_cons, not_or] at plain
    exact .character (Ne.symm plain.1) (ih plain.2)

theorem of_graphic (code : Nat) : Decorates [] (Terminal.graphic code) := by
  have single : Decorates [] (Terminal.graphic code ++ []) := .graphic .nil
  rwa [List.append_nil] at single

theorem of_setColors (palette : Palette) : Decorates [] (setColors palette) := by
  rcases palette with ⟨_ | foreground, _ | background⟩
  · exact .nil
  · exact of_graphic _
  · exact (of_graphic _).append .nil
  · exact (of_graphic _).append (of_graphic _)

theorem withoutGraphics (decorates : Decorates text output) :
    Terminal.withoutGraphics output = text := by
  induction decorates with
  | nil => rw [Terminal.withoutGraphics]
  | character plain _ ih => rw [withoutGraphics_of_missing (afterGraphic?_of_plain plain _), ih]
  | graphic _ ih => rw [withoutGraphics_of_found (afterGraphic?_graphic _ _), ih]

end Decorates

def Carries (colored : Bool) (text output : List Char) : Prop :=
  if colored then '\x1b' ∉ text → Decorates text output else output = text

theorem Carries.append {colored : Bool} {text more output further : List Char}
    (first : Carries colored text output) (second : Carries colored more further) :
    Carries colored (text ++ more) (output ++ further) := by
  cases colored with
  | false => exact congrArg₂ (· ++ ·) first second
  | true =>
    intro plain
    simp only [List.mem_append, not_or] at plain
    exact (first plain.1).append (second plain.2)

end Terminal

theorem Event.carries_streamed (event : Event) (colored : Bool) (palette : Palette) :
    Terminal.Carries colored event.written (event.streamed colored palette) := by
  cases colored with
  | false =>
    cases event with
    | write piece => rfl
    | recolor slot color => cases color <;> rfl
  | true =>
    intro plain
    cases event with
    | write piece => exact .of_plain plain
    | recolor slot color =>
      cases color with
      | some color => exact .of_graphic _
      | none => exact (Terminal.Decorates.of_graphic 0).append (.of_setColors _)

/-- A stream that has the colors of a recorder and carries what the recorder holds. -/
structure Mirrors (colored : Bool) (stream : TerminalStream) (recorder : Recorder) : Prop where
  mode : stream.colored = colored
  palette : stream.palette = recorder.palette
  output : Terminal.Carries colored (Event.textOf recorder.events) stream.output

namespace Mirrors

variable {colored : Bool} {stream next : TerminalStream} {recorder : Recorder} {event : Event}

theorem send (mirrors : Mirrors colored stream recorder)
    (accepted : TerminalStream.sink.send event stream = .ok next)
    (short : event.written.length ≤ 1) : Mirrors colored next (recorder.record event) := by
  obtain ⟨output, same, palette⟩ := TerminalStream.shows_of_send accepted short
  constructor
  · rw [same, mirrors.mode]
  · rw [palette, Recorder.palette_record, mirrors.palette]
  · rw [output, Recorder.events_record, Event.textOf_append, mirrors.mode]
    have written : Event.textOf [event] = event.written := by simp [Event.textOf]
    rw [written]
    exact mirrors.output.append (event.carries_streamed colored stream.palette)

theorem reset (mirrors : Mirrors colored stream recorder) :
    Mirrors colored stream.reset recorder := by
  obtain ⟨same, palette⟩ := stream.reset_fields
  constructor
  · rw [same, mirrors.mode]
  · rw [palette, mirrors.palette]
  · rw [TerminalStream.output_reset, mirrors.mode, ← List.append_nil (Event.textOf _)]
    refine mirrors.output.append ?_
    cases colored with
    | false => rfl
    | true =>
      intro _
      exact (Terminal.Decorates.of_graphic 0).append (.of_setColors _)

theorem parallel (colored : Bool) :
    TerminalStream.device.Parallel Recorder.device (fun piece => piece.length ≤ 1)
      (Mirrors colored) where
  toParallel := by
    refine .of_send (fun _ => Nat.le_refl 1) TerminalStream.accepting Recorder.accepting ?_
    intro event stream recorder next after fits accepted recorded mirrors
    injection (Recorder.send_sink event recorder).symm.trans recorded with same
    subst same
    exact mirrors.send accepted (Event.short_of_allowed fits)
  palette mirrors := mirrors.palette
  reset mirrors := mirrors.reset

end Mirrors

def Counterparts (bright dull : TerminalStream) : Prop :=
  ∃ recorder, Mirrors true bright recorder ∧ Mirrors false dull recorder

/-- Two streams that show a program the same, the second one without the sequences of graphic
attributes. -/
structure Erases (bright dull : Snapshot TerminalStream) : Prop where
  palette : bright.state.palette = dull.state.palette
  captured : bright.captured = dull.captured
  outcomes : bright.outcomes = dull.outcomes
  output : '\x1b' ∉ dull.state.output →
    dull.state.output = Terminal.withoutGraphics bright.state.output

theorem erases_of_counterparts {bright dull : Snapshot TerminalStream}
    (parallel : bright.Parallel Counterparts dull) : Erases bright dull := by
  obtain ⟨⟨recorder, brightMirrors, dullMirrors⟩, captured, outcomes⟩ := parallel
  have written : dull.state.output = Event.textOf recorder.events := dullMirrors.output
  refine ⟨brightMirrors.palette.trans dullMirrors.palette.symm, captured, outcomes, ?_⟩
  intro plain
  rw [written] at plain ⊢
  exact (brightMirrors.output plain).withoutGraphics.symm

/-- A routine that writes character by character goes the same way on a fresh stream with colors and
on one without: after every step, those within scopes included, both have the same colors, the same
captured colors and the same outcomes. The stream without colors carries what a recorder of the same
steps holds, escapes included; if there are none among the characters, it carries what the other one
does without the sequences of graphic attributes. -/
theorem colors_off_erases_graphics {ε : Type} (routine : Routine ε)
    (short : routine.Fits fun piece => piece.length ≤ 1) :
    let bright := routine.run TerminalStream.device { state := { colored := true } }
    let dull := routine.run TerminalStream.device { state := { colored := false } }
    let recorded := routine.run Recorder.device { state := {} }
    bright.2 = dull.2
      ∧ List.Forall₂ Erases bright.1.seen dull.1.seen
      ∧ List.Forall₂
          (fun dull recorded => dull.state.output = Event.textOf recorded.state.events)
          dull.1.seen recorded.1.seen := by
  intro bright dull recorded
  have fresh : ∀ colored, Mirrors colored { colored } {} := by
    intro colored
    refine ⟨rfl, rfl, ?_⟩
    cases colored with
    | false => rfl
    | true => exact fun _ => .nil
  have recording : Snapshot.Parallel (Mirrors false) { state := { colored := false } }
      { state := {} } :=
    ⟨fresh false, rfl, rfl⟩
  have streaming : Snapshot.Parallel Counterparts { state := { colored := true } }
      { state := { colored := false } } :=
    ⟨⟨{}, fresh true, fresh false⟩, rfl, rfl⟩
  have both := (Mirrors.parallel true).through (Mirrors.parallel false)
  obtain ⟨streams, ends⟩ := both.run short (.start streaming)
  obtain ⟨reference, _⟩ := (Mirrors.parallel false).run short (.start recording)
  refine ⟨ends, ?_, ?_⟩
  · exact streams.seen.imp fun _ _ => erases_of_counterparts
  · exact reference.seen.imp fun _ _ parallel => parallel.state.output

/-- A line in a scope that is left by an exception, on a background that was captured before it. -/
theorem colors_off_erases_graphics_unwound :
    let markup : Markup := { signs := Signs.standard, colors := [.green], text := ['%', '0', 'a'] }
    let body : Routine String := .andThen (.render (.writeLine (.given {}) true) markup)
      (.andThen .reset (.andThen (.send (.write ['m'])) (.raise "failed")))
    let routine : Routine String := .andThen (.send (.recolor .background (some .red)))
      (.andThen (.capture "red") (.restoring (.captured "red") true body))
    let bright := routine.run TerminalStream.device { state := { colored := true } }
    let dull := routine.run TerminalStream.device { state := { colored := false } }
    routine.Fits (fun piece => piece.length ≤ 1)
      ∧ bright.2 = some (.raised "failed") ∧ dull.2 = some (.raised "failed")
      ∧ bright.1.state.palette = dull.1.state.palette
      ∧ dull.1.state.output = ['a', '\n', 'm']
      ∧ Terminal.withoutGraphics bright.1.state.output = ['a', '\n', 'm'] := by
  intro markup body routine bright dull
  have played : Event.textOf (routine.run Recorder.device { state := {} }).1.state.events
      = ['a', '\n', 'm'] := by
    decide +kernel +revert
  have raised : dull.2 = some (.raised "failed") := by
    decide +kernel +revert
  have short : routine.Fits fun piece => piece.length ≤ 1 := by
    simp [routine, body, Routine.Fits, Event.Allowed]
  obtain ⟨ends, erased, recorded⟩ := colors_off_erases_graphics routine short
  have final : Erases bright.1.toSnapshot dull.1.toSnapshot := (List.forall₂_cons.mp erased).1
  have written : dull.1.state.output = ['a', '\n', 'm'] :=
    (List.forall₂_cons.mp recorded).1.trans played
  have plain : '\x1b' ∉ dull.1.state.output := by
    rw [written]
    decide
  exact ⟨short, ends.trans raised, raised, final.palette, written,
    (final.output plain).symm.trans written⟩

end ColorMarkup
