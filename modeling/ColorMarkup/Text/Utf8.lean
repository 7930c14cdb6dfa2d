import ColorMarkup.Text.Quoted

/-!
Decoding of text files. The decoder goes octet by octet; within a character it knows how many octets
are owed and the bounds of the next one. A fault covers the octets up to the one that rules the
text out.
-/

namespace ColorMarkup.Text

inductive DecodeCause where
  | invalidStart
  | invalidContinuation
  | unexpectedEnd
deriving DecidableEq

/-- The octets that no text begins with at their place: the first of them, its position and their
number. -/
structure DecodeFault where
  cause : DecodeCause
  first : UInt8
  position : Nat
  count : Nat
deriving DecidableEq

namespace DecodeFault

def causeText : DecodeCause → String
  | .invalidStart => "invalid start byte"
  | .invalidContinuation => "invalid continuation byte"
  | .unexpectedEnd => "unexpected end of data"

def message (fault : DecodeFault) : String :=
  "'utf-8' codec can't decode "
    ++ (if fault.count = 1 then
          "byte 0x" ++ String.ofList (hex 2 fault.first.toNat)
            ++ " in position " ++ toString fault.position
        else
          "bytes in position " ++ toString fault.position ++ "-"
            ++ toString (fault.position + fault.count - 1))
    ++ ": " ++ causeText fault.cause

end DecodeFault

/-- A character whose first octets have been seen: how many are owed, the bounds of the next one,
and the bits so far. -/
structure Incomplete where
  first : UInt8
  position : Nat
  seen : Nat
  owed : Nat
  least : Nat
  greatest : Nat
  bits : Nat

def begin? (octet : UInt8) (position : Nat) : Option Incomplete :=
  let code := octet.toNat
  let start (owed least greatest bits : Nat) : Option Incomplete :=
    some { first := octet, position, seen := 1, owed, least, greatest, bits }
  if code < 0xc2 then none
  else if code < 0xe0 then start 1 0x80 0xbf (code - 0xc0)
  else if code = 0xe0 then start 2 0xa0 0xbf 0
  else if code = 0xed then start 2 0x80 0x9f 0xd
  else if code < 0xf0 then start 2 0x80 0xbf (code - 0xe0)
  else if code = 0xf0 then start 3 0x90 0xbf 0
  else if code < 0xf4 then start 3 0x80 0xbf (code - 0xf0)
  else if code = 0xf4 then start 3 0x80 0x8f 4
  else none

namespace Incomplete

def fault (character : Incomplete) (cause : DecodeCause) : DecodeFault :=
  { cause, first := character.first, position := character.position, count := character.seen }

def next (character : Incomplete) (octet : UInt8) : Incomplete :=
  { character with
    seen := character.seen + 1
    owed := character.owed - 1
    least := 0x80
    greatest := 0xbf
    bits := character.bits * 64 + octet.toNat % 64 }

end Incomplete

/-- Decodes octets from a position on; `done` holds the characters before it, last first. -/
def decodeFrom (position : Nat) (open? : Option Incomplete) (done : List Char) :
    List UInt8 → Except DecodeFault (List Char)
  | [] =>
    match open? with
    | none => .ok done.reverse
    | some character => .error (character.fault .unexpectedEnd)
  | octet :: rest =>
    match open? with
    | none =>
      if octet.toNat < 0x80 then
        decodeFrom (position + 1) none (Char.ofNat octet.toNat :: done) rest
      else
        match begin? octet position with
        | some character => decodeFrom (position + 1) (some character) done rest
        | none => .error { cause := .invalidStart, first := octet, position, count := 1 }
    | some character =>
      if character.least ≤ octet.toNat ∧ octet.toNat ≤ character.greatest then
        let character := character.next octet
        if character.owed = 0 then
          decodeFrom (position + 1) none (Char.ofNat character.bits :: done) rest
        else decodeFrom (position + 1) (some character) done rest
      else .error (character.fault .invalidContinuation)

def decode (octets : List UInt8) : Except DecodeFault (List Char) :=
  decodeFrom 0 none [] octets

end ColorMarkup.Text
