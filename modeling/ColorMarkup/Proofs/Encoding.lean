import ColorMarkup.Text.Utf8

/-!
Texts as octets. Decoding accepts exactly the octets that encoding gives, and gives the text back.
-/

namespace ColorMarkup.Text

def encode (text : List Char) : List UInt8 :=
  text.flatMap String.utf8EncodeChar

@[simp] theorem encode_cons (character : Char) (text : List Char) :
    encode (character :: text) = String.utf8EncodeChar character ++ encode text := rfl

namespace Incomplete

def Follows (least greatest : Nat) : (owed : Nat) → List UInt8 → Prop
  | 0, tail => tail = []
  | _ + 1, [] => False
  | owed + 1, octet :: tail =>
    (least ≤ octet.toNat ∧ octet.toNat ≤ greatest) ∧ Follows 0x80 0xbf owed tail

def value (bits : Nat) (tail : List UInt8) : Nat :=
  tail.foldl (fun bits octet => bits * 64 + octet.toNat % 64) bits

@[simp] theorem value_nil (bits : Nat) : value bits [] = bits := rfl

@[simp] theorem value_cons (bits : Nat) (octet : UInt8) (tail : List UInt8) :
    value bits (octet :: tail) = value (bits * 64 + octet.toNat % 64) tail := rfl

def completed (character : Incomplete) (tail : List UInt8) : Char :=
  Char.ofNat (value character.bits tail)

end Incomplete

open Incomplete

theorem decodeFrom_tail {tail : List UInt8} {character : Incomplete} (owes : 0 < character.owed)
    (follows : Follows character.least character.greatest character.owed tail)
    (position : Nat) (done : List Char) (rest : List UInt8) :
    decodeFrom position (some character) done (tail ++ rest)
      = decodeFrom (position + tail.length) none (character.completed tail :: done) rest := by
  induction tail generalizing character position with
  | nil =>
    cases owed : character.owed with
    | zero => omega
    | succ owed => simp [owed, Follows] at follows
  | cons octet tail ih =>
    cases owed : character.owed with
    | zero => omega
    | succ left =>
      rw [owed] at follows
      obtain ⟨within, others⟩ := follows
      have stays : (character.next octet).owed = left := by simp [next, owed]
      rw [List.cons_append, decodeFrom]
      simp only [if_pos within, stays]
      cases left with
      | zero =>
        have alone : tail = [] := others
        subst alone
        rfl
      | succ left =>
        have stillOwes : 0 < (character.next octet).owed := by omega
        have later := ih stillOwes (by rw [stays]; exact others) (position + 1)
        simp only [Nat.add_one_ne_zero, if_false]
        rw [later, List.length_cons]
        have place : position + 1 + tail.length = position + (tail.length + 1) := by omega
        rw [place]
        rfl

theorem exists_tail {octets : List UInt8} {character : Incomplete} {position : Nat}
    {done text : List Char} (owes : 0 < character.owed)
    (decoded : decodeFrom position (some character) done octets = .ok text) :
    ∃ tail rest, octets = tail ++ rest
      ∧ Follows character.least character.greatest character.owed tail
      ∧ decodeFrom (position + tail.length) none (character.completed tail :: done) rest
          = .ok text := by
  induction octets generalizing character position with
  | nil => simp [decodeFrom] at decoded
  | cons octet octets ih =>
    rw [decodeFrom] at decoded
    cases owed : character.owed with
    | zero => omega
    | succ left =>
      have stays : (character.next octet).owed = left := by simp [next, owed]
      by_cases within : character.least ≤ octet.toNat ∧ octet.toNat ≤ character.greatest
      · simp only [if_pos within, stays] at decoded
        cases left with
        | zero => exact ⟨[octet], octets, rfl, ⟨within, rfl⟩, decoded⟩
        | succ left =>
          simp only [Nat.add_one_ne_zero, if_false] at decoded
          obtain ⟨tail, rest, rfl, follows, later⟩ := ih (by omega) decoded
          rw [stays] at follows
          refine ⟨octet :: tail, rest, rfl, ⟨within, follows⟩, ?_⟩
          have place : position + (tail.length + 1) = position + 1 + tail.length := by omega
          rw [List.length_cons, place]
          exact later
      · simp only [if_neg within] at decoded
        contradiction

theorem toNat_ofNat_of_scalar {code : Nat}
    (scalar : code < 0xd800 ∨ (0xe000 ≤ code ∧ code < 0x110000)) :
    (Char.ofNat code).toNat = code := by
  have valid : code.isValidChar := by
    rcases scalar with below | ⟨above, inside⟩
    · exact .inl (by omega)
    · exact .inr ⟨by omega, inside⟩
  rw [Char.ofNat, dif_pos valid]
  rfl

theorem scalar_toNat (character : Char) :
    character.toNat < 0xd800 ∨ (0xe000 ≤ character.toNat ∧ character.toNat < 0x110000) := by
  have valid : character.toNat.isValidChar := character.valid
  unfold Nat.isValidChar at valid
  omega

theorem utf8EncodeChar_one {character : Char} (short : character.toNat < 0x80) :
    String.utf8EncodeChar character = [UInt8.ofNat character.toNat] := by
  have within : character.val.toNat ≤ 127 := Nat.le_of_lt_succ short
  unfold String.utf8EncodeChar
  rw [if_pos within]
  rfl

theorem utf8EncodeChar_two {character : Char} {first second : Nat}
    (code : character.toNat = first * 64 + second) (least : 2 ≤ first) (greatest : first < 32)
    (tail : second < 64) :
    String.utf8EncodeChar character
      = [UInt8.ofNat (first + 0xc0), UInt8.ofNat (second + 0x80)] := by
  have number : character.val.toNat = first * 64 + second := code
  have high : (first * 64 + second) / 64 % 32 = first := by omega
  have low : (first * 64 + second) % 64 = second := by omega
  unfold String.utf8EncodeChar
  rw [number, if_neg (by omega), if_pos (by omega), high, low]

theorem utf8EncodeChar_three {character : Char} {first second third : Nat}
    (code : character.toNat = (first * 64 + second) * 64 + third)
    (least : 32 ≤ first * 64 + second) (greatest : first < 16) (tail : second < 64)
    (last : third < 64) :
    String.utf8EncodeChar character
      = [UInt8.ofNat (first + 0xe0), UInt8.ofNat (second + 0x80), UInt8.ofNat (third + 0x80)] := by
  have number : character.val.toNat = (first * 64 + second) * 64 + third := code
  have high : ((first * 64 + second) * 64 + third) / 4096 % 16 = first := by omega
  have middle : ((first * 64 + second) * 64 + third) / 64 % 64 = second := by omega
  have low : ((first * 64 + second) * 64 + third) % 64 = third := by omega
  unfold String.utf8EncodeChar
  rw [number, if_neg (by omega), if_neg (by omega), if_pos (by omega), high, middle, low]

theorem utf8EncodeChar_four {character : Char} {first second third fourth : Nat}
    (code : character.toNat = ((first * 64 + second) * 64 + third) * 64 + fourth)
    (least : 16 ≤ first * 64 + second) (greatest : first < 8) (tail : second < 64)
    (later : third < 64) (last : fourth < 64) :
    String.utf8EncodeChar character
      = [UInt8.ofNat (first + 0xf0), UInt8.ofNat (second + 0x80), UInt8.ofNat (third + 0x80),
          UInt8.ofNat (fourth + 0x80)] := by
  have number : character.val.toNat = ((first * 64 + second) * 64 + third) * 64 + fourth := code
  have top : (((first * 64 + second) * 64 + third) * 64 + fourth) / 262144 % 8 = first := by omega
  have high : (((first * 64 + second) * 64 + third) * 64 + fourth) / 4096 % 64 = second := by omega
  have middle : (((first * 64 + second) * 64 + third) * 64 + fourth) / 64 % 64 = third := by omega
  have low : (((first * 64 + second) * 64 + third) * 64 + fourth) % 64 = fourth := by omega
  unfold String.utf8EncodeChar
  rw [number, if_neg (by omega), if_neg (by omega), if_neg (by omega), top, high, middle, low]

theorem begun_cases {octet : UInt8} {position : Nat} {character : Incomplete}
    (begun : begin? octet position = some character) :
    (character.owed = 1 ∧ octet.toNat = character.bits + 0xc0 ∧ 2 ≤ character.bits
        ∧ character.bits < 32 ∧ character.least = 0x80 ∧ character.greatest = 0xbf)
      ∨ (character.owed = 2 ∧ octet.toNat = character.bits + 0xe0 ∧ character.bits < 16
          ∧ ∀ next, character.least ≤ next ∧ next ≤ character.greatest
            ↔ (0x80 ≤ next ∧ next ≤ 0xbf) ∧ 32 ≤ character.bits * 64 + next % 64
              ∧ ¬(864 ≤ character.bits * 64 + next % 64 ∧ character.bits * 64 + next % 64 < 896))
      ∨ (character.owed = 3 ∧ octet.toNat = character.bits + 0xf0 ∧ character.bits < 8
          ∧ ∀ next, character.least ≤ next ∧ next ≤ character.greatest
            ↔ (0x80 ≤ next ∧ next ≤ 0xbf) ∧ 16 ≤ character.bits * 64 + next % 64
              ∧ character.bits * 64 + next % 64 < 272) := by
  unfold begin? at begun
  dsimp only at begun
  split at begun
  · contradiction
  split at begun
  · injection begun with same
    subst same
    exact .inl ⟨rfl, by dsimp only; omega, by dsimp only; omega, by dsimp only; omega, rfl, rfl⟩
  -- leads of the same number of octets differ in the bounds of the next one only
  iterate 3
    split at begun
    · injection begun with same
      subst same
      refine .inr (.inl ⟨rfl, by dsimp only; omega, by dsimp only; omega, ?_⟩)
      intro next
      dsimp only
      omega
  iterate 3
    split at begun
    · injection begun with same
      subst same
      refine .inr (.inr ⟨rfl, by dsimp only; omega, by dsimp only; omega, ?_⟩)
      intro next
      dsimp only
      omega
  contradiction

theorem owed_pos {octet : UInt8} {position : Nat} {character : Incomplete}
    (begun : begin? octet position = some character) : 0 < character.owed := by
  rcases begun_cases begun with ⟨owed, _⟩ | ⟨owed, _⟩ | ⟨owed, _⟩ <;> omega

theorem exists_begun (octet : UInt8) (position : Nat) (least : 0xc2 ≤ octet.toNat)
    (greatest : octet.toNat < 0xf5) : ∃ character, begin? octet position = some character := by
  unfold begin?
  dsimp only
  rw [if_neg (by omega)]
  repeat' split
  all_goals first | exact ⟨_, rfl⟩ | omega

theorem ofNat_add_mod {octet : UInt8} (low : 0x80 ≤ octet.toNat) (high : octet.toNat ≤ 0xbf) :
    UInt8.ofNat (octet.toNat % 64 + 0x80) = octet := by
  have same : octet.toNat % 64 + 0x80 = octet.toNat := by omega
  rw [same, UInt8.ofNat_toNat]

theorem utf8EncodeChar_completed {octet : UInt8} {position : Nat} {character : Incomplete}
    {tail : List UInt8} (begun : begin? octet position = some character)
    (follows : Follows character.least character.greatest character.owed tail) :
    String.utf8EncodeChar (character.completed tail) = octet :: tail := by
  rcases begun_cases begun with
    ⟨owed, lead, least, greatest, low, high⟩ | ⟨owed, lead, greatest, second⟩
      | ⟨owed, lead, greatest, second⟩
  · rw [owed, low, high] at follows
    cases tail with
    | nil => exact follows.elim
    | cons next tail =>
      obtain ⟨⟨above, below⟩, rfl⟩ := follows
      have code : (character.completed [next]).toNat = character.bits * 64 + next.toNat % 64 :=
        toNat_ofNat_of_scalar (by simp only [value_cons, value_nil]; omega)
      rw [utf8EncodeChar_two code least greatest (by omega), ofNat_add_mod above below, ← lead,
        UInt8.ofNat_toNat]
  · rw [owed] at follows
    match tail, follows with
    | [next, third], ⟨bounds, ⟨low, high⟩, _⟩ =>
      obtain ⟨⟨least, most⟩, long, notSurrogate⟩ := (second next.toNat).mp bounds
      have code : (character.completed [next, third]).toNat
          = (character.bits * 64 + next.toNat % 64) * 64 + third.toNat % 64 :=
        toNat_ofNat_of_scalar (by simp only [value_cons, value_nil]; omega)
      rw [utf8EncodeChar_three code long greatest (by omega) (by omega), ofNat_add_mod least most,
        ofNat_add_mod low high, ← lead, UInt8.ofNat_toNat]
  · rw [owed] at follows
    match tail, follows with
    | [next, third, fourth], ⟨bounds, ⟨low, high⟩, ⟨lowest, highest⟩, _⟩ =>
      obtain ⟨⟨least, most⟩, long, inside⟩ := (second next.toNat).mp bounds
      have code : (character.completed [next, third, fourth]).toNat
          = ((character.bits * 64 + next.toNat % 64) * 64 + third.toNat % 64) * 64
            + fourth.toNat % 64 :=
        toNat_ofNat_of_scalar (by simp only [value_cons, value_nil]; omega)
      rw [utf8EncodeChar_four code long greatest (by omega) (by omega) (by omega),
        ofNat_add_mod least most, ofNat_add_mod low high, ofNat_add_mod lowest highest, ← lead,
        UInt8.ofNat_toNat]

theorem toNat_ofNat_of_small {number : Nat} (small : number < 256) :
    (UInt8.ofNat number).toNat = number :=
  UInt8.toNat_ofNat_of_lt' small

theorem begins_utf8EncodeChar {character : Char} (long : 0x80 ≤ character.toNat) (position : Nat) :
    ∃ octet tail begun, String.utf8EncodeChar character = octet :: tail
      ∧ begin? octet position = some begun
      ∧ Follows begun.least begun.greatest begun.owed tail
      ∧ begun.completed tail = character := by
  have scalar := scalar_toNat character
  have whole {begun : Incomplete} {tail : List UInt8}
      (code : value begun.bits tail = character.toNat) : begun.completed tail = character := by
    rw [completed, code, Char.ofNat_toNat]
  by_cases two : character.toNat < 0x800
  · obtain ⟨first, second, code, last⟩ :
        ∃ first second, character.toNat = first * 64 + second ∧ second < 64 :=
      ⟨character.toNat / 64, character.toNat % 64, by omega, by omega⟩
    have lead := toNat_ofNat_of_small (show first + 0xc0 < 256 by omega)
    have next := toNat_ofNat_of_small (show second + 0x80 < 256 by omega)
    obtain ⟨begun, started⟩ := exists_begun (UInt8.ofNat (first + 0xc0)) position
      (by omega) (by omega)
    refine ⟨_, _, begun, utf8EncodeChar_two code (by omega) (by omega) last, started, ?_⟩
    rcases begun_cases started with ⟨owed, bits, _, _, low, high⟩ | ⟨_, bits, _⟩ | ⟨_, bits, _⟩
    · rw [owed, low, high]
      refine ⟨⟨by omega, rfl⟩, whole ?_⟩
      simp only [value_cons, value_nil]
      omega
    · omega
    · omega
  by_cases three : character.toNat < 0x10000
  · obtain ⟨first, second, third, code, tail, last⟩ :
        ∃ first second third, character.toNat = (first * 64 + second) * 64 + third
          ∧ second < 64 ∧ third < 64 :=
      ⟨character.toNat / 4096, character.toNat / 64 % 64, character.toNat % 64, by omega, by omega,
        by omega⟩
    have lead := toNat_ofNat_of_small (show first + 0xe0 < 256 by omega)
    have next := toNat_ofNat_of_small (show second + 0x80 < 256 by omega)
    have after := toNat_ofNat_of_small (show third + 0x80 < 256 by omega)
    obtain ⟨begun, started⟩ := exists_begun (UInt8.ofNat (first + 0xe0)) position
      (by omega) (by omega)
    refine ⟨_, _, begun, utf8EncodeChar_three code (by omega) (by omega) tail last, started, ?_⟩
    rcases begun_cases started with ⟨_, bits, _⟩ | ⟨owed, bits, _, bounds⟩ | ⟨_, bits, _⟩
    · omega
    · have second := (bounds (second + 0x80)).mpr (by omega)
      rw [owed]
      refine ⟨⟨by omega, ⟨by omega, rfl⟩⟩, whole ?_⟩
      simp only [value_cons, value_nil]
      omega
    · omega
  · obtain ⟨first, second, third, fourth, code, tail, later, last⟩ :
        ∃ first second third fourth,
          character.toNat = ((first * 64 + second) * 64 + third) * 64 + fourth
            ∧ second < 64 ∧ third < 64 ∧ fourth < 64 :=
      ⟨character.toNat / 262144, character.toNat / 4096 % 64, character.toNat / 64 % 64,
        character.toNat % 64, by omega, by omega, by omega, by omega⟩
    have lead := toNat_ofNat_of_small (show first + 0xf0 < 256 by omega)
    have next := toNat_ofNat_of_small (show second + 0x80 < 256 by omega)
    have after := toNat_ofNat_of_small (show third + 0x80 < 256 by omega)
    have final := toNat_ofNat_of_small (show fourth + 0x80 < 256 by omega)
    obtain ⟨begun, started⟩ := exists_begun (UInt8.ofNat (first + 0xf0)) position
      (by omega) (by omega)
    refine ⟨_, _, begun, utf8EncodeChar_four code (by omega) (by omega) tail later last, started,
      ?_⟩
    rcases begun_cases started with ⟨_, bits, _⟩ | ⟨_, bits, _⟩ | ⟨owed, bits, _, bounds⟩
    · omega
    · omega
    · have second := (bounds (second + 0x80)).mpr (by omega)
      rw [owed]
      refine ⟨⟨by omega, ⟨by omega, ⟨by omega, rfl⟩⟩⟩, whole ?_⟩
      simp only [value_cons, value_nil]
      omega

theorem decodeFrom_utf8EncodeChar (character : Char) (position : Nat) (done : List Char)
    (rest : List UInt8) :
    ∃ next, decodeFrom position none done (String.utf8EncodeChar character ++ rest)
      = decodeFrom next none (character :: done) rest := by
  by_cases short : character.toNat < 0x80
  · have code := toNat_ofNat_of_small (show character.toNat < 256 by omega)
    refine ⟨position + 1, ?_⟩
    rw [utf8EncodeChar_one short, List.singleton_append, decodeFrom]
    simp only [code, if_pos short, Char.ofNat_toNat]
  · obtain ⟨octet, tail, begun, encoded, started, follows, whole⟩ :=
      begins_utf8EncodeChar (Nat.le_of_not_lt short) position
    have long : ¬octet.toNat < 0x80 := by
      rcases begun_cases started with ⟨_, lead, _⟩ | ⟨_, lead, _⟩ | ⟨_, lead, _⟩ <;> omega
    refine ⟨position + 1 + tail.length, ?_⟩
    rw [encoded, List.cons_append, decodeFrom]
    simp only [if_neg long, started]
    rw [decodeFrom_tail (owed_pos started) follows, whole]

theorem decodeFrom_encode (text : List Char) (position : Nat) (done : List Char) :
    decodeFrom position none done (encode text) = .ok (done.reverse ++ text) := by
  induction text generalizing position done with
  | nil => simp [encode, decodeFrom]
  | cons character rest ih =>
    obtain ⟨next, read⟩ := decodeFrom_utf8EncodeChar character position done (encode rest)
    rw [encode_cons, read, ih]
    simp

theorem exists_encode {octets : List UInt8} {position : Nat} {done text : List Char}
    (decoded : decodeFrom position none done octets = .ok text) :
    ∃ more, text = done.reverse ++ more ∧ octets = encode more := by
  generalize length : octets.length = count
  induction count using Nat.strongRecOn generalizing octets position done with
  | ind count ih =>
    cases octets with
    | nil =>
      injection decoded with same
      exact ⟨[], by simp [same], rfl⟩
    | cons octet rest =>
      rw [List.length_cons] at length
      by_cases short : octet.toNat < 0x80
      · simp only [decodeFrom, if_pos short] at decoded
        obtain ⟨more, whole, rfl⟩ := ih rest.length (by omega) decoded rfl
        have code : (Char.ofNat octet.toNat).toNat = octet.toNat :=
          toNat_ofNat_of_scalar (by omega)
        have encoded := utf8EncodeChar_one (show (Char.ofNat octet.toNat).toNat < 0x80 by omega)
        refine ⟨Char.ofNat octet.toNat :: more, by simp [whole], ?_⟩
        rw [encode_cons, encoded, code, UInt8.ofNat_toNat]
        rfl
      · simp only [decodeFrom, if_neg short] at decoded
        cases started : begin? octet position with
        | none => simp [started] at decoded
        | some begun =>
          rw [started] at decoded
          obtain ⟨tail, others, rfl, follows, later⟩ := exists_tail (owed_pos started) decoded
          rw [List.length_append] at length
          obtain ⟨more, whole, rfl⟩ := ih others.length (by omega) later rfl
          refine ⟨begun.completed tail :: more, by simp [whole], ?_⟩
          rw [encode_cons, utf8EncodeChar_completed started follows]
          rfl

/-- Octets are decoded to a text exactly if they are its encoding. -/
theorem decode_eq_ok {octets : List UInt8} {text : List Char} :
    decode octets = .ok text ↔ octets = encode text := by
  constructor
  · intro decoded
    obtain ⟨more, rfl, encoded⟩ := exists_encode decoded
    exact encoded
  · rintro rfl
    exact decodeFrom_encode text 0 []

end ColorMarkup.Text
