import ColorMarkup.Proofs.Parallel
import Mathlib.Data.List.Forall2

/-!
What a program does with a sink: calls, renders, captured colors and scopes that restore colors on
every way out, also when an exception is raised in them. Sinks that go side by side call by call do
so through whole routines.
-/

namespace ColorMarkup

variable {φ σ τ υ ε : Type}

/-- A sink that can be reset as well. -/
structure Device (φ σ : Type) extends Sink φ σ where
  reset : σ → σ

def Recorder.device : Device Empty Recorder :=
  { Recorder.sink with reset := id }

def TerminalStream.device : Device Empty TerminalStream :=
  { TerminalStream.sink with reset := TerminalStream.reset }

/-- The colors to restore: given ones, or those captured last under a name. -/
inductive Defaults where
  | given (palette : Palette)
  | captured (name : String)

structure Markup where
  signs : Signs
  colors : List Color
  text : List Char

inductive Rendering where
  | scan
  | write (defaults : Defaults) (restore : Bool)
  | writeLine (defaults : Defaults) (restore : Bool)

inductive Routine (ε : Type) where
  | pass
  | send (call : Event)
  | reset
  | capture (name : String)
  | restore (defaults : Defaults)
  | render (rendering : Rendering) (markup : Markup)
  | raise (exception : ε)
  | andThen (first second : Routine ε)
  | restoring (defaults : Defaults) (enabled : Bool) (body : Routine ε)

/-- Why a routine does not get to its end. -/
inductive Interrupt (φ ε : Type) where
  | raised (exception : ε)
  | refused (fault : φ)
deriving DecidableEq

/-- What can be seen between two steps: the sink, the captured colors and the outcomes of the renders
so far, the last one first. -/
structure Snapshot (σ : Type) where
  state : σ
  captured : List (String × Palette) := []
  outcomes : List Outcome := []

/-- A routine under way, with what was seen after every step so far, the last one first. -/
structure Stage (σ : Type) extends Snapshot σ where
  history : List (Snapshot σ) := []

namespace Snapshot

def resolve (snapshot : Snapshot σ) : Defaults → Palette
  | .given palette => palette
  | .captured name => (snapshot.captured.lookup name).getD {}

end Snapshot

namespace Stage

def reach (stage : Stage σ) (next : Snapshot σ) : Stage σ :=
  { toSnapshot := next, history := next :: stage.history }

def seen (stage : Stage σ) : List (Snapshot σ) :=
  stage.toSnapshot :: stage.history

end Stage

def Rendering.run (rendering : Rendering) (sink : Sink φ σ) (markup : Markup)
    (snapshot : Snapshot σ) : Run φ σ :=
  match rendering with
  | scan => ColorMarkup.scan sink markup.signs markup.colors markup.text snapshot.state
  | write defaults restore =>
    ColorMarkup.write sink (snapshot.resolve defaults) restore markup.signs markup.colors markup.text
      snapshot.state
  | writeLine defaults restore =>
    ColorMarkup.writeLine sink (snapshot.resolve defaults) restore markup.signs markup.colors
      markup.text snapshot.state

namespace Routine

def run (device : Device φ σ) : Routine ε → Stage σ → Stage σ × Option (Interrupt φ ε)
  | pass, stage => (stage, none)
  | send call, stage =>
    match device.send call stage.state with
    | .ok state => (stage.reach { stage.toSnapshot with state }, none)
    | .error fault => (stage, some (.refused fault))
  | reset, stage =>
    (stage.reach { stage.toSnapshot with state := device.reset stage.state }, none)
  | capture name, stage =>
    let captured := (name, device.palette stage.state) :: stage.captured
    (stage.reach { stage.toSnapshot with captured }, none)
  | restore defaults, stage =>
    let state := device.restore (stage.resolve defaults) stage.state
    (stage.reach { stage.toSnapshot with state }, none)
  | render rendering markup, stage =>
    let run := rendering.run device.toSink markup stage.toSnapshot
    let after := { stage.toSnapshot with state := run.state }
    match run.result with
    | .ok outcome => (stage.reach { after with outcomes := outcome :: stage.outcomes }, none)
    | .error fault => (stage.reach after, some (.refused fault))
  | raise exception, stage => (stage, some (.raised exception))
  | andThen first second, stage =>
    match first.run device stage with
    | (between, none) => second.run device between
    | (between, some interrupt) => (between, some interrupt)
  | restoring defaults enabled body, stage =>
    let (state, after, interrupt) := device.restoring (stage.resolve defaults) enabled
      (fun state =>
        let (after, interrupt) := body.run device { stage with state }
        (after.state, after, interrupt))
      stage.state
    (after.reach { after.toSnapshot with state }, interrupt)

def raised? : Routine ε → Option ε
  | raise exception => some exception
  | andThen first second => first.raised? <|> second.raised?
  | restoring _ _ body => body.raised?
  | _ => none

def Fits (allowed : List Char → Prop) : Routine ε → Prop
  | send call => call.Allowed allowed
  | andThen first second => first.Fits allowed ∧ second.Fits allowed
  | restoring _ _ body => body.Fits allowed
  | _ => True

theorem fits_any (routine : Routine ε) : routine.Fits fun _ => True := by
  induction routine with
  | send call => cases call <;> exact trivial
  | andThen first second ihFirst ihSecond => exact ⟨ihFirst, ihSecond⟩
  | restoring defaults enabled body ih => exact ih
  | _ => exact trivial

end Routine

/-- Snapshots of two sinks that are alike but for the states of the sinks, which are related. -/
structure Snapshot.Parallel (related : σ → τ → Prop) (snapshot : Snapshot σ)
    (across : Snapshot τ) : Prop where
  state : related snapshot.state across.state
  captured : snapshot.captured = across.captured
  outcomes : snapshot.outcomes = across.outcomes

structure Stage.Parallel (related : σ → τ → Prop) (stage : Stage σ) (across : Stage τ) : Prop
    extends Snapshot.Parallel related stage.toSnapshot across.toSnapshot where
  history : List.Forall₂ (Snapshot.Parallel related) stage.history across.history

/-- Devices that go side by side and show the same colors. -/
structure Device.Parallel (one : Device φ σ) (other : Device φ τ) (allowed : List Char → Prop)
    (related : σ → τ → Prop) : Prop
    extends one.toSink.Parallel other.toSink allowed related where
  palette : ∀ {state opposite}, related state opposite → one.palette state = other.palette opposite
  reset : ∀ {state opposite}, related state opposite →
    related (one.reset state) (other.reset opposite)

theorem Snapshot.Parallel.resolve {related : σ → τ → Prop} {snapshot : Snapshot σ}
    {across : Snapshot τ} (parallel : snapshot.Parallel related across) (defaults : Defaults) :
    snapshot.resolve defaults = across.resolve defaults := by
  cases defaults with
  | given palette => rfl
  | captured name => simp only [Snapshot.resolve, parallel.captured]

namespace Stage.Parallel

variable {related : σ → τ → Prop} {stage : Stage σ} {across : Stage τ} {next : Snapshot σ}
  {beside : Snapshot τ}

theorem start (here : next.Parallel related beside) :
    Stage.Parallel related { toSnapshot := next } { toSnapshot := beside } :=
  ⟨here, .nil⟩

theorem reach (parallel : stage.Parallel related across) (after : next.Parallel related beside) :
    (stage.reach next).Parallel related (across.reach beside) :=
  ⟨after, .cons after parallel.history⟩

theorem seen (parallel : stage.Parallel related across) :
    List.Forall₂ (Snapshot.Parallel related) stage.seen across.seen :=
  .cons parallel.toParallel parallel.history

end Stage.Parallel

namespace Device.Parallel

variable {one : Device φ σ} {other : Device φ τ} {allowed : List Char → Prop}
  {related : σ → τ → Prop}

theorem rendering (parallel : one.Parallel other allowed related) (rendering : Rendering)
    (markup : Markup) {snapshot : Snapshot σ} {across : Snapshot τ}
    (here : snapshot.Parallel related across) :
    Run.Parallel related (rendering.run one.toSink markup snapshot)
      (rendering.run other.toSink markup across) := by
  cases rendering with
  | scan => exact parallel.scan _ _ _ here.state
  | write defaults restore =>
    simp only [Rendering.run, here.resolve]
    exact parallel.rendered _ _ _ _ _ here.state
  | writeLine defaults restore =>
    simp only [Rendering.run, here.resolve]
    exact parallel.line _ _ _ _ _ here.state

theorem run (parallel : one.Parallel other allowed related) {routine : Routine ε}
    (fits : routine.Fits allowed) {stage : Stage σ} {across : Stage τ}
    (here : stage.Parallel related across) :
    (routine.run one stage).1.Parallel related (routine.run other across).1
      ∧ (routine.run one stage).2 = (routine.run other across).2 := by
  induction routine generalizing stage across with
  | pass => exact ⟨here, rfl⟩
  | raise exception => exact ⟨here, rfl⟩
  | send call =>
    obtain ⟨next, beside, accepted, otherAccepted, there⟩ := parallel.send fits here.state
    simp only [Routine.run, accepted, otherAccepted]
    exact ⟨here.reach ⟨there, here.captured, here.outcomes⟩, trivial⟩
  | reset => exact ⟨here.reach ⟨parallel.reset here.state, here.captured, here.outcomes⟩, rfl⟩
  | capture name =>
    refine ⟨here.reach ⟨here.state, ?_, here.outcomes⟩, rfl⟩
    simp only [parallel.palette here.state, here.captured]
  | restore defaults =>
    simp only [Routine.run, here.resolve]
    exact ⟨here.reach ⟨parallel.restore _ here.state, here.captured, here.outcomes⟩, trivial⟩
  | render rendering markup =>
    obtain ⟨there, ends⟩ := parallel.rendering rendering markup here.toParallel
    simp only [Routine.run, ← ends]
    split
    · exact ⟨here.reach ⟨there, here.captured, by rw [here.outcomes]⟩, rfl⟩
    · exact ⟨here.reach ⟨there, here.captured, here.outcomes⟩, rfl⟩
  | andThen first second ihFirst ihSecond =>
    obtain ⟨between, ends⟩ := ihFirst fits.1 here
    simp only [Routine.run]
    rcases firstRun : first.run one stage with ⟨reached, interrupt⟩
    rcases otherRun : first.run other across with ⟨otherReached, otherInterrupt⟩
    rw [firstRun, otherRun] at between ends
    simp only at between ends
    subst ends
    cases interrupt with
    | none => exact ihSecond fits.2 between
    | some interrupt => exact ⟨between, rfl⟩
  | restoring defaults enabled body ih =>
    obtain ⟨inside, ends⟩ := ih fits here
    simp only [Routine.run, Sink.restoring, here.resolve]
    refine ⟨inside.reach ⟨?_, inside.captured, inside.outcomes⟩, ends⟩
    cases enabled with
    | true => exact parallel.restore _ inside.state
    | false => exact inside.state

theorem through {third : Device φ υ} {reference : σ → υ → Prop} {counterpart : τ → υ → Prop}
    (first : one.Parallel third allowed reference)
    (second : other.Parallel third allowed counterpart) :
    one.Parallel other allowed fun state opposite =>
      ∃ middle, reference state middle ∧ counterpart opposite middle where
  toParallel := first.toParallel.through second.toParallel
  palette := by
    rintro state opposite ⟨middle, left, right⟩
    rw [first.palette left, second.palette right]
  reset := by
    rintro state opposite ⟨middle, left, right⟩
    exact ⟨_, first.reset left, second.reset right⟩

end Device.Parallel

end ColorMarkup
