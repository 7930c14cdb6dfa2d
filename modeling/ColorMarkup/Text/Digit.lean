import ColorMarkup.Text.Quoted

/-!
Digits of all scripts. Decimal digits have a value and stand in runs of ten that begin with a zero;
superscripts, circled and other digits count as digits without forming numerals.
-/

namespace ColorMarkup.Text

def zeros : List Nat :=
  [0x30, 0x660, 0x6f0, 0x7c0, 0x966, 0x9e6, 0xa66, 0xae6, 0xb66, 0xbe6,
   0xc66, 0xce6, 0xd66, 0xde6, 0xe50, 0xed0, 0xf20, 0x1040, 0x1090, 0x17e0,
   0x1810, 0x1946, 0x19d0, 0x1a80, 0x1a90, 0x1b50, 0x1bb0, 0x1c40, 0x1c50, 0xa620,
   0xa8d0, 0xa900, 0xa9d0, 0xa9f0, 0xaa50, 0xabf0, 0xff10, 0x104a0, 0x10d30, 0x11066,
   0x110f0, 0x11136, 0x111d0, 0x112f0, 0x11450, 0x114d0, 0x11650, 0x116c0, 0x11730, 0x118e0,
   0x11950, 0x11c50, 0x11d50, 0x11da0, 0x16a60, 0x16ac0, 0x16b50, 0x1d7ce, 0x1d7d8, 0x1d7e2,
   0x1d7ec, 0x1d7f6, 0x1e140, 0x1e2f0, 0x1e950, 0x1fbf0]

/-- Runs of digits that are not decimal. -/
def otherDigits : List (Nat × Nat) :=
  [(0xb2, 0xb3), (0xb9, 0xb9), (0x1369, 0x1371), (0x19da, 0x19da), (0x2070, 0x2070),
   (0x2074, 0x2079), (0x2080, 0x2089), (0x2460, 0x2468), (0x2474, 0x247c), (0x2488, 0x2490),
   (0x24ea, 0x24ea), (0x24f5, 0x24fd), (0x24ff, 0x24ff), (0x2776, 0x277e), (0x2780, 0x2788),
   (0x278a, 0x2792), (0x10a40, 0x10a43), (0x10e60, 0x10e68), (0x11052, 0x1105a),
   (0x1f100, 0x1f10a)]

def decimalValue? (character : Char) : Option Nat :=
  (zeros.find? fun first => first ≤ character.toNat && character.toNat < first + 10).map
    fun first => character.toNat - first

def isDecimal (character : Char) : Bool :=
  (decimalValue? character).isSome

def isDigit (character : Char) : Bool :=
  isDecimal character || inRuns character.toNat otherDigits

def isPlainDigit (character : Char) : Bool :=
  '0' ≤ character && character ≤ '9'

/-- The most decimal digits that a number may have when it is read from a text or shown as one. -/
def numeralLimit : Nat := 4300

def tooManyDigits : String :=
  "Exceeds the limit (" ++ toString numeralLimit ++ " digits) for integer string conversion"

def limitAdvice : String := "; use sys.set_int_max_str_digits() to increase the limit"

def ofDigits (digits : List Nat) : Nat :=
  digits.foldl (fun value digit => 10 * value + digit) 0

def plainValue (digits : List Char) : Nat :=
  ofDigits (digits.map fun digit => digit.toNat - '0'.toNat)

theorem ofDigits_append (first second : List Nat) :
    ofDigits (first ++ second) = ofDigits first * Nat.pow 10 second.length + ofDigits second := by
  have general : ∀ (digits : List Nat) (start : Nat),
      digits.foldl (fun value digit => 10 * value + digit) start
        = start * Nat.pow 10 digits.length + ofDigits digits := by
    intro digits
    induction digits with
    | nil => intro start; simp [ofDigits]
    | cons digit rest ih =>
      intro start
      simp only [ofDigits, List.foldl_cons, List.length_cons, Nat.mul_zero, Nat.zero_add] at *
      have power : Nat.pow 10 (rest.length + 1) = Nat.pow 10 rest.length * 10 := rfl
      rw [ih (10 * start + digit), ih digit, power, Nat.add_mul]
      have : 10 * start * Nat.pow 10 rest.length = start * (Nat.pow 10 rest.length * 10) := by
        rw [Nat.mul_comm 10 start, Nat.mul_assoc, Nat.mul_comm 10]
      omega
  simp only [ofDigits, List.foldl_append]
  exact general second _

inductive NumeralFault where
  | notDecimal (text : List Char)
  | tooLong (digits : Nat)

/-- The most characters that a message shows of a quotation, its opening mark among them. -/
def quotationLimit : Nat := 200

def NumeralFault.message : NumeralFault → String
  | notDecimal text =>
    "invalid literal for int() with base 10: " ++ String.ofList ((quoted text).take quotationLimit)
  | tooLong digits =>
    tooManyDigits ++ ": value has " ++ toString digits ++ " digits" ++ limitAdvice

/-- The number denoted by a text that consists of digits. The length of the decimal digits before
the first other one is tested first. -/
def numeral? (text : List Char) : Except NumeralFault Nat :=
  let leading := (text.takeWhile isDecimal).length
  if numeralLimit < leading then .error (.tooLong leading)
  else match text.mapM decimalValue? with
    | some digits => .ok (ofDigits digits)
    | none => .error (.notDecimal text)

end ColorMarkup.Text
