import ColorMarkup.Proofs.Delivery

/-!
Sinks that fill up. Such a sink takes a number of writes and refuses the next one. By then it has
received what a recorder holds before that write, and the restoration of the colors still reaches
it, once.
-/

namespace ColorMarkup

variable {φ σ : Type}

namespace Event

def writeCount (events : List Event) : Nat :=
  events.countP isWrite

@[simp] theorem writeCount_write (piece : List Char) (rest : List Event) :
    writeCount (write piece :: rest) = writeCount rest + 1 :=
  List.countP_cons_of_pos rfl

@[simp] theorem writeCount_recolor (slot : Slot) (color : Option Color) (rest : List Event) :
    writeCount (recolor slot color :: rest) = writeCount rest :=
  List.countP_cons_of_neg Bool.false_ne_true

theorem writeCount_append (first second : List Event) :
    writeCount (first ++ second) = writeCount first + writeCount second := by
  simp [writeCount]

theorem exists_write {events : List Event} {count : Nat} (more : count < writeCount events) :
    ∃ before piece behind,
      events = before ++ write piece :: behind ∧ writeCount before = count := by
  induction events generalizing count with
  | nil => simp [writeCount] at more
  | cons event rest ih =>
    cases event with
    | recolor slot color =>
      rw [writeCount_recolor] at more
      obtain ⟨before, piece, behind, rfl, counted⟩ := ih more
      exact ⟨recolor slot color :: before, piece, behind, rfl, by simpa using counted⟩
    | write first =>
      rw [writeCount_write] at more
      cases count with
      | zero => exact ⟨[], first, rest, rfl, rfl⟩
      | succ count =>
        obtain ⟨before, piece, behind, rfl, counted⟩ := ih (Nat.lt_of_succ_lt_succ more)
        exact ⟨write first :: before, piece, behind, rfl, by simpa using counted⟩

end Event

/-- The sink takes as many writes as its capacity, and any colors, and refuses the write after
them. -/
structure Sink.FillsUp (sink : Sink φ σ) (capacity : Nat) (fault : φ) (state : σ) : Prop where
  takes : ∀ calls, Event.writeCount calls ≤ capacity →
    ∃ after, sink.sendAll calls state = (after, none)
  refuses : ∀ calls after piece, Event.writeCount calls = capacity →
    sink.sendAll calls state = (after, none) → sink.write piece after = .error fault

namespace Sink.FillsUp

variable {sink : Sink φ σ} {capacity : Nat} {fault : φ} {state : σ}

theorem watched (fills : sink.FillsUp capacity fault state) (earlier : List Event) :
    sink.watched.FillsUp capacity fault (state, earlier) := by
  constructor
  · intro calls room
    obtain ⟨after, sent⟩ := fills.takes calls room
    exact ⟨_, sendAll_watched sent earlier⟩
  · intro calls after piece full watching
    obtain ⟨plain, sent⟩ := fills.takes calls (Nat.le_of_eq full)
    rw [sendAll_watched sent earlier] at watching
    injection watching with same
    subst same
    have refused := fills.refuses calls plain piece full sent
    simp [Sink.watched, refused, Except.map]

theorem exists_write (fills : sink.FillsUp capacity fault state) {calls : List Event} {between : σ}
    (room : Event.writeCount calls < capacity)
    (sent : sink.sendAll calls state = (between, none)) (piece : List Char) :
    ∃ after, sink.write piece between = .ok after := by
  have oneMore : Event.writeCount (calls ++ [.write piece]) ≤ capacity := by
    rw [Event.writeCount_append]
    exact room
  obtain ⟨after, all⟩ := fills.takes _ oneMore
  rw [sendAll_append, sent] at all
  obtain ⟨next, accepted, _⟩ := sendAll_cons_sent.mp all
  exact ⟨next, accepted⟩

end Sink.FillsUp

namespace Recorder

variable {fault : φ}

theorem writeCount_eq (recorder : Recorder) :
    recorder.writeCount = Event.writeCount recorder.events := by
  rw [writeCount, Event.writeCount, List.countP_eq_length_filter]

theorem writeCount_record (recorder : Recorder) (event : Event) :
    (recorder.record event).writeCount = recorder.writeCount + Event.writeCount [event] := by
  rw [writeCount_eq, writeCount_eq, events_record, Event.writeCount_append]

theorem send_limitedSink {limit : Nat} {recorder : Recorder} {call : Event}
    (room : Event.writeCount [call] ≤ limit - recorder.writeCount) :
    (limitedSink fault limit).send call recorder = .ok (recorder.record call) := by
  cases call with
  | recolor slot color => rfl
  | write piece =>
    have free : ¬limit ≤ recorder.writeCount := by
      rw [Event.writeCount_write] at room
      omega
    simp [Sink.send, limitedSink, free]

theorem sendAll_limitedSink {limit : Nat} {recorder : Recorder} {calls : List Event}
    (room : Event.writeCount calls ≤ limit - recorder.writeCount) :
    ∃ after, (limitedSink fault limit).sendAll calls recorder = (after, none)
      ∧ after.writeCount = recorder.writeCount + Event.writeCount calls := by
  induction calls generalizing recorder with
  | nil => exact ⟨recorder, rfl, rfl⟩
  | cons call rest ih =>
    have parts := Event.writeCount_append [call] rest
    rw [List.singleton_append] at parts
    have counted := recorder.writeCount_record call
    have accepted : (limitedSink fault limit).send call recorder = .ok (recorder.record call) :=
      send_limitedSink (by omega)
    have enough : Event.writeCount rest ≤ limit - (recorder.record call).writeCount := by omega
    obtain ⟨after, others, total⟩ := ih enough
    exact ⟨after, Sink.sendAll_cons_sent.mpr ⟨_, accepted, others⟩, by omega⟩

theorem fillsUp (limit : Nat) (recorder : Recorder) :
    (limitedSink fault limit).FillsUp (limit - recorder.writeCount) fault recorder := by
  constructor
  · intro calls room
    obtain ⟨after, sent, _⟩ := sendAll_limitedSink room
    exact ⟨after, sent⟩
  · intro calls after piece full sent
    obtain ⟨same, alsoSent, total⟩ := sendAll_limitedSink (Nat.le_of_eq full)
    rw [sent] at alsoSent
    injection alsoSent with equal
    subst equal
    have noRoom : limit ≤ after.writeCount := by omega
    simp [limitedSink, noRoom]

end Recorder

/-- A run that ends with the refusal of a write, and the calls that the sink has taken. -/
structure Run.Breaks (sink : Sink φ σ) (state : σ) (run : Run φ σ) (fault : φ)
    (calls : List Event) : Prop where
  result : run.result = .error fault
  sent : sink.sendAll calls state = (run.state, none)

namespace Run

variable {sink : Sink φ σ} {capacity : Nat} {fault : φ} {state : σ} {run : Run φ σ}
  {outcome : Outcome} {calls : List Event} {signs : Signs} {colors : List Color}
  {text : List Char}

theorem Breaks.restored (breaks : Run.Breaks sink state run fault calls) (defaults : Palette) :
    Run.Breaks sink state (run.restored sink defaults) fault (calls ++ restoration defaults) := by
  refine ⟨breaks.result, ?_⟩
  rw [Sink.sendAll_append, breaks.sent]
  rfl

theorem Breaks.reported (breaks : Run.Breaks sink state run fault calls) :
    Run.Breaks sink state run.reported fault calls := by
  have same : run.reported = run := by simp [Run.reported, breaks.result]
  rw [same]
  exact breaks

theorem Breaks.terminated (breaks : Run.Breaks sink state run fault calls) :
    Run.Breaks sink state (run.terminated sink) fault calls := by
  have same : run.terminated sink = run := by simp [Run.terminated, breaks.result]
  rw [same]
  exact breaks

theorem Sends.terminated_refused (sends : Run.Sends sink state run outcome calls)
    (ok : outcome.ok = true) (refused : sink.write ['\n'] run.state = .error fault) :
    Run.Breaks sink state (run.terminated sink) fault calls := by
  obtain ⟨error, written, directives⟩ := outcome
  cases error with
  | some error => simp [Outcome.ok] at ok
  | none =>
    have ended : run.terminated sink = { run with result := .error fault } := by
      simp [Run.terminated, sends.result, refused]
    rw [ended]
    exact ⟨rfl, sends.sent⟩

theorem Breaks.of_scan_refused {before behind : List Event} {piece : List Char} {after : σ}
    (whole : (record signs colors text).state.events = before ++ .write piece :: behind)
    (taken : sink.sendAll before state = (after, none))
    (refused : sink.write piece after = .error fault) :
    Run.Breaks sink state (scan sink signs colors text state) fault before := by
  have stopped : sink.sendAll (before ++ .write piece :: behind) state = (after, some fault) := by
    rw [Sink.sendAll_append, taken]
    simp [Sink.sendAll, Sink.send, refused]
  rw [← whole, (record_eq signs colors text).1] at stopped
  obtain ⟨reached, ended⟩ := scan_of_refused stopped
  exact ⟨ended, reached.symm ▸ taken⟩

theorem Breaks.of_scan (fills : sink.FillsUp capacity fault state) {before behind : List Event}
    {piece : List Char} (full : Event.writeCount before = capacity)
    (whole : (record signs colors text).state.events = before ++ .write piece :: behind) :
    Run.Breaks sink state (scan sink signs colors text state) fault before := by
  obtain ⟨after, taken⟩ := fills.takes before (Nat.le_of_eq full)
  exact of_scan_refused whole taken (fills.refuses before after piece full taken)

theorem Breaks.rendered
    (scanned : Run.Breaks sink state (scan sink signs colors text state) fault calls)
    (defaults : Palette) (restore : Bool) :
    Run.Breaks sink state (ColorMarkup.write sink defaults restore signs colors text state) fault
      (calls ++ if restore then restoration defaults else []) := by
  apply Breaks.reported
  cases restore with
  | true => exact scanned.restored defaults
  | false => simpa using scanned

end Run

/-- What rendering does with a sink that refuses a write: the refusal comes out of it, the sink is
left as the calls leave it, and the calls are all that the sink has taken. -/
structure Interrupts (sink : Sink φ σ) (state : σ) (fault : φ) (calls : List Event)
    (render : ∀ {τ : Type}, Sink φ τ → τ → Run φ τ) : Prop where
  result : (render sink state).result = .error fault
  sent : sink.sendAll calls state = ((render sink state).state, none)
  received : (render sink.watched (state, [])).state = ((render sink state).state, calls)

namespace Sink.FillsUp

variable {sink : Sink φ σ} {capacity : Nat} {fault : φ} {state : σ} {outcome : Outcome}
  {calls : List Event} {render : ∀ {τ : Type}, Sink φ τ → τ → Run φ τ}

theorem delivers (fills : sink.FillsUp capacity fault state)
    (sends : ∀ {τ : Type} {sink : Sink φ τ} {state : τ}, sink.FillsUp capacity fault state →
      Run.Sends sink state (render sink state) outcome calls) :
    Delivers sink state outcome calls render := by
  have plain := sends fills
  have watched := sends (fills.watched [])
  exact ⟨plain.result, plain.sent, received_eq plain.sent watched.sent⟩

theorem interrupts (fills : sink.FillsUp capacity fault state)
    (breaks : ∀ {τ : Type} {sink : Sink φ τ} {state : τ}, sink.FillsUp capacity fault state →
      Run.Breaks sink state (render sink state) fault calls) :
    Interrupts sink state fault calls render := by
  have plain := breaks fills
  have watched := breaks (fills.watched [])
  exact ⟨plain.result, plain.sent, received_eq plain.sent watched.sent⟩

end Sink.FillsUp

section

variable {sink : Sink φ σ} {capacity : Nat} {fault : φ} {state : σ} {signs : Signs}
  {colors : List Color} {text : List Char}

theorem writeCount_restored (calls : List Event) (defaults : Palette) (restore : Bool) :
    Event.writeCount (calls ++ if restore then restoration defaults else [])
      = Event.writeCount calls := by
  rw [Event.writeCount_append]
  cases restore <;> rfl

theorem sends_of_room (fills : sink.FillsUp capacity fault state)
    (room : Event.writeCount (record signs colors text).state.events ≤ capacity)
    (defaults : Palette) (restore : Bool) :
    Run.Sends sink state (write sink defaults restore signs colors text state)
      (validate signs colors text)
      ((record signs colors text).state.events
        ++ if restore then restoration defaults else []) := by
  obtain ⟨after, sent⟩ := fills.takes _ room
  exact (Run.Sends.of_scan_sent sent).rendered defaults restore

/-- A sink that fills up receives what a recorder holds before the write that it refuses, and then
the restoration, if it is wanted. If only the line end is refused, that is the whole text. A sink
with room for all writes receives what any other sink does. -/
theorem full_sink_receives (fills : sink.FillsUp capacity fault state) (defaults : Palette)
    (restore : Bool) (signs : Signs) (colors : List Color) (text : List Char) :
    let events := (record signs colors text).state.events
    let outcome := validate signs colors text
    let restored (calls : List Event) := calls ++ if restore then restoration defaults else []
    (Event.writeCount events ≤ capacity →
        Delivers sink state outcome (restored events)
          (fun sink state => write sink defaults restore signs colors text state))
      ∧ (capacity < Event.writeCount events →
          ∃ before piece behind, events = before ++ .write piece :: behind
            ∧ Event.writeCount before = capacity)
      ∧ (∀ before piece behind, events = before ++ .write piece :: behind →
          Event.writeCount before = capacity →
            Interrupts sink state fault (restored before)
                (fun sink state => write sink defaults restore signs colors text state)
              ∧ Interrupts sink state fault (restored before)
                  (fun sink state => writeLine sink defaults restore signs colors text state))
      ∧ (Event.writeCount events < capacity
            ∨ Event.writeCount events = capacity ∧ outcome.ok = false →
          Delivers sink state outcome
            (restored events ++ if outcome.ok then [.write ['\n']] else [])
            (fun sink state => writeLine sink defaults restore signs colors text state))
      ∧ (Event.writeCount events = capacity → outcome.ok = true →
          Interrupts sink state fault (restored events)
            (fun sink state => writeLine sink defaults restore signs colors text state)) := by
  intro events outcome restored
  have counted : Event.writeCount (restored events) = Event.writeCount events :=
    writeCount_restored events defaults restore
  refine ⟨?_, Event.exists_write, ?_, ?_, ?_⟩
  · intro room
    exact fills.delivers fun fills => sends_of_room fills room defaults restore
  · intro before piece behind whole full
    have writes {τ : Type} {sink : Sink φ τ} {state : τ}
        (fills : sink.FillsUp capacity fault state) :
        Run.Breaks sink state (write sink defaults restore signs colors text state) fault
          (restored before) := (Run.Breaks.of_scan fills full whole).rendered defaults restore
    exact ⟨fills.interrupts writes, fills.interrupts fun fills => (writes fills).terminated⟩
  · intro room
    refine fills.delivers fun {τ sink state} fills => ?_
    have fits : Event.writeCount events ≤ capacity := by omega
    have sends := sends_of_room fills fits defaults restore
    refine sends.terminated_taken fun ok => ?_
    -- the line end is a write like the others: there has to be room for one more
    have below : Event.writeCount events < capacity := by
      rcases room with below | ⟨_, stopped⟩
      · exact below
      · exact absurd (stopped.symm.trans ok) Bool.false_ne_true
    exact fills.exists_write (counted ▸ below) sends.sent ['\n']
  · intro exact ok
    refine fills.interrupts fun {τ sink state} fills => ?_
    have sends := sends_of_room fills (Nat.le_of_eq exact) defaults restore
    exact sends.terminated_refused ok (fills.refuses _ _ _ (counted.trans exact) sends.sent)

/-- The third character is refused: what stands before it has been received, with its directive,
and the colors are restored. -/
theorem full_sink_receives_midway :
    let recorder : Recorder := { newest := [.write ['x']] }
    let defaults : Palette := { background := some .blue }
    let text := ['a', '%', '0', 'b', 'c', '&', '0', 'd']
    (Recorder.limitedSink "sink full" 3).FillsUp 2 "sink full" recorder
      ∧ Interrupts (Recorder.limitedSink "sink full" 3) recorder "sink full"
          [.write ['a'], .recolor .foreground (some .red), .write ['b'],
            .recolor .foreground none, .recolor .background (some .blue)]
          (fun sink state => writeLine sink defaults true Signs.standard [.red] text state) := by
  intro recorder defaults text
  have fills : (Recorder.limitedSink "sink full" 3).FillsUp 2 "sink full" recorder :=
    Recorder.fillsUp 3 recorder
  have events : (record Signs.standard [.red] text).state.events
      = [.write ['a'], .recolor .foreground (some .red), .write ['b']] ++ .write ['c'] ::
          [.recolor .background (some .red), .write ['d']] := by
    rw [(record_eq _ _ _).1]
    decide +kernel
  obtain ⟨_, _, stopped, _, _⟩ :=
    full_sink_receives fills defaults true Signs.standard [.red] text
  exact ⟨fills, (stopped _ _ _ events rfl).2⟩

end

end ColorMarkup
