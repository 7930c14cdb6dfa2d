import ColorMarkup.Cli.Console
import ColorMarkup.Proofs.JsonText
import ColorMarkup.Proofs.StreamText
import Mathlib.Data.List.TakeWhile

/-!
Output behind an encoding. What the encoding has reaches the stream as if there were none, and the
first piece with another character is refused.
-/

namespace ColorMarkup

namespace Text.Encoding

variable {encoding : Encoding} {text more : List Char}

def Holds (encoding : Encoding) (text : List Char) : Prop :=
  ∀ character ∈ text, encoding.holds character = true

instance (encoding : Encoding) (text : List Char) : Decidable (encoding.Holds text) :=
  List.decidableBAll (fun character => encoding.holds character = true) text

theorem fault?_eq_none_iff : encoding.fault? text = none ↔ encoding.Holds text := by
  rw [Holds, ← List.dropWhile_eq_nil_iff, fault?]
  split
  · rename_i nothing
    simp [nothing]
  · rename_i refused rest some
    simp [some]

/-- What an encoding says of a single character that it does not have. -/
def refusal (encoding : Encoding) (character : Char) : EncodeFault where
  name := encoding.name
  reason := encoding.reason
  position := 0
  refused := [character]

theorem fault?_singleton {character : Char} (lacks : encoding.holds character = false) :
    encoding.fault? [character] = some (encoding.refusal character) := by
  simp [fault?, lacks, refusal]

theorem holds_of_ascii (held : ascii.Holds text) : encoding.Holds text :=
  fun character member => encoding.basic character (of_decide_eq_true (held character member))

theorem holds_of_basic (basic : Json.IsBasic text) : encoding.Holds text :=
  fun character member => encoding.basic character (by have := (basic character member).2; omega)

theorem holds_utf8 (text : List Char) : utf8.Holds text :=
  fun _ _ => rfl

theorem Holds.append (first : encoding.Holds text) (second : encoding.Holds more) :
    encoding.Holds (text ++ more) :=
  List.forall_mem_append.mpr ⟨first, second⟩

theorem holds_lineEnd (newline : Bool) : encoding.Holds (Cli.Console.lineEnd newline) := by
  cases newline <;> exact holds_of_ascii (by decide)

end Text.Encoding

namespace Terminal

theorem mem_of_mem_stripFrom {skip : Nat} {text : List Char} {character : Char}
    (member : character ∈ stripFrom skip text) : character ∈ text := by
  fun_induction stripFrom skip text with
  | case1 => exact member
  | case2 skip first rest ih => exact List.mem_cons_of_mem _ (ih member)
  | case3 first rest length _ ih => exact List.mem_cons_of_mem _ (ih member)
  | case4 first rest _ ih =>
    rcases List.mem_cons.mp member with rfl | later
    · exact List.mem_cons_self
    · exact List.mem_cons_of_mem _ (ih later)

theorem mem_of_mem_emitted {colored : Bool} {text : List Char} {character : Char}
    (member : character ∈ emitted colored text) : character ∈ text := by
  cases colored with
  | true => exact member
  | false => exact mem_of_mem_stripFrom member

end Terminal

theorem Text.Encoding.Holds.emitted {encoding : Text.Encoding} {text : List Char}
    (held : encoding.Holds text) (colored : Bool) :
    encoding.Holds (Terminal.emitted colored text) :=
  fun character member => held character (Terminal.mem_of_mem_emitted member)

namespace TerminalStream

variable {encoding : Text.Encoding} {stream next after : TerminalStream} {event : Event}
  {events : List Event}

theorem send_of_encoded (accepted : (encodedSink encoding).send event stream = .ok next) :
    sink.send event stream = .ok next := by
  cases event with
  | recolor slot color =>
    injection accepted with same
    exact congrArg Except.ok same
  | write piece =>
    simp only [Sink.send, encodedSink] at accepted
    split at accepted
    · contradiction
    · injection accepted with same
      exact congrArg Except.ok same

theorem sendAll_of_encoded (sent : (encodedSink encoding).sendAll events stream = (after, none)) :
    sink.sendAll events stream = (after, none) := by
  induction events generalizing stream with
  | nil => exact Sink.sendAll_nil_sent.mpr (Sink.sendAll_nil_sent.mp sent)
  | cons event rest ih =>
    obtain ⟨next, accepted, others⟩ := Sink.sendAll_cons_sent.mp sent
    exact Sink.sendAll_cons_sent.mpr ⟨next, send_of_encoded accepted, ih others⟩

theorem exists_write {piece : List Char} (held : encoding.Holds piece) (stream : TerminalStream) :
    ∃ next, (encodedSink encoding).write piece stream = .ok next := by
  have fits := Text.Encoding.fault?_eq_none_iff.mpr (held.emitted stream.colored)
  exact ⟨stream.emit piece, by simp [encodedSink, fits]⟩

theorem write_refused {character : Char} (lacks : encoding.holds character = false)
    (stream : TerminalStream) :
    (encodedSink encoding).write [character] stream = .error (encoding.refusal character) := by
  simp [encodedSink, Terminal.emitted_of_short, Text.Encoding.fault?_singleton lacks]

theorem exists_sendAll (held : ∀ event ∈ events, encoding.Holds event.written)
    (stream : TerminalStream) :
    ∃ after, (encodedSink encoding).sendAll events stream = (after, none) := by
  induction events generalizing stream with
  | nil => exact ⟨stream, rfl⟩
  | cons event rest ih =>
    have accepted : ∃ next, (encodedSink encoding).send event stream = .ok next := by
      cases event with
      | recolor slot color => exact ⟨_, rfl⟩
      | write piece => exact exists_write (held _ List.mem_cons_self) stream
    obtain ⟨next, accepted⟩ := accepted
    obtain ⟨after, others⟩ :=
      ih (fun other member => held other (List.mem_cons_of_mem event member)) next
    exact ⟨after, Sink.sendAll_cons_sent.mpr ⟨next, accepted, others⟩⟩

end TerminalStream

namespace Cli.Console

variable {console : Console} {text : List Char}

def put (text : List Char) (console : Console) : Console :=
  { console with output := console.output ++ text }

@[simp] theorem colored_put : (console.put text).colored = console.colored := rfl

@[simp] theorem encoding_put : (console.put text).encoding = console.encoding := rfl

@[simp] theorem fault_put : (console.put text).fault = console.fault := rfl

@[simp] theorem output_put : (console.put text).output = console.output ++ text := rfl

theorem print_held (goes : console.fault = none) (held : console.encoding.Holds text)
    (newline : Bool) :
    console.print text newline
      = console.put (Terminal.emitted console.colored (text ++ lineEnd newline)) := by
  have whole := held.append (Text.Encoding.holds_lineEnd newline)
  have fits := Text.Encoding.fault?_eq_none_iff.mpr (whole.emitted console.colored)
  simp [print, goes, fits, put]

theorem printLine_held (goes : console.fault = none) (held : console.encoding.Holds text) :
    console.printLine text = console.put (Terminal.emitted console.colored (text ++ ['\n'])) :=
  print_held goes held true

/-- A console that has refused nothing and whose encoding has all characters. -/
structure TakesAll (console : Console) : Prop where
  goes : console.fault = none
  holds : ∀ text, console.encoding.Holds text

theorem TakesAll.print_eq (takes : console.TakesAll) (text : List Char) (newline : Bool) :
    console.print text newline
      = console.put (Terminal.emitted console.colored (text ++ lineEnd newline)) :=
  print_held takes.goes (takes.holds text) newline

theorem TakesAll.print (takes : console.TakesAll) (text : List Char) (newline : Bool) :
    (console.print text newline).TakesAll := by
  rw [takes.print_eq]
  exact ⟨takes.goes, takes.holds⟩

end Cli.Console

end ColorMarkup
