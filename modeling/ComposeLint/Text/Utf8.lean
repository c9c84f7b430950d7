import ComposeLint.Text.Basic

/-!
Reading text from octets in UTF-8. The reader goes octet by octet and refuses at the first one that
no character can have there; a fault tells where the broken character starts and how many of its
octets were sound.
-/

namespace ComposeLint.Utf8

inductive Reason
  | start
  | continuation
  | endOfData
deriving DecidableEq, Repr

structure Fault where
  reason : Reason
  first : UInt8
  position : Nat
  length : Nat
deriving DecidableEq, Repr

def Reason.message : Reason → Text
  | .start => "invalid start byte".toList
  | .continuation => "invalid continuation byte".toList
  | .endOfData => "unexpected end of data".toList

def hexOctet (b : UInt8) : Text := [Nat.digitChar (b.toNat / 16), Nat.digitChar (b.toNat % 16)]

/-- A single octet is shown; of several their range is given. -/
def Fault.message (f : Fault) : Text :=
  let place :=
    if f.length == 1 then
      "byte 0x".toList ++ hexOctet f.first ++ " in position ".toList ++ Text.ofNat f.position
    else
      "bytes in position ".toList ++ Text.ofNat f.position ++ "-".toList ++
        Text.ofNat (f.position + f.length - 1)
  "'utf-8' codec can't decode ".toList ++ place ++ ": ".toList ++ f.reason.message

/-- A character that is not complete: its first octet and place, the octets taken, the bits so far,
the octets owed, and the least and greatest that the next one may be. -/
structure Partial where
  first : UInt8
  position : Nat
  taken : Nat
  bits : Nat
  owed : Nat
  least : UInt8
  greatest : UInt8
deriving DecidableEq, Repr

/-- The character that an octet begins, if it begins one of several octets. The range of the second
octet keeps out overlong forms, surrogates and what lies beyond the last code point. -/
def begin? (b : UInt8) (position : Nat) : Option Partial :=
  let make := fun (bits owed : Nat) (least greatest : UInt8) =>
    some { first := b, position, taken := 1, bits, owed, least, greatest }
  let n := b.toNat
  if 0xC2 ≤ n && n ≤ 0xDF then make (n - 0xC0) 1 0x80 0xBF
  else if n == 0xE0 then make 0 2 0xA0 0xBF
  else if n == 0xED then make (n - 0xE0) 2 0x80 0x9F
  else if 0xE1 ≤ n && n ≤ 0xEF then make (n - 0xE0) 2 0x80 0xBF
  else if n == 0xF0 then make 0 3 0x90 0xBF
  else if n == 0xF4 then make (n - 0xF0) 3 0x80 0x8F
  else if 0xF1 ≤ n && n ≤ 0xF3 then make (n - 0xF0) 3 0x80 0xBF
  else none

def Partial.fault (p : Partial) (reason : Reason) : Fault :=
  { reason, first := p.first, position := p.position, length := p.taken }

def Partial.add (p : Partial) (b : UInt8) : Partial :=
  { p with
    taken := p.taken + 1
    bits := p.bits * 64 + (b.toNat - 0x80)
    owed := p.owed - 1
    least := 0x80
    greatest := 0xBF }

/-- The text of octets from a position on, `open?` being a character that is not complete. -/
def decodeFrom (position : Nat) (open? : Option Partial) : List UInt8 → Except Fault Text
  | [] =>
    match open? with
    | none => .ok []
    | some p => .error (p.fault .endOfData)
  | b :: rest =>
    match open? with
    | none =>
      if b.toNat < 0x80 then
        (decodeFrom (position + 1) none rest).map (Char.ofNat b.toNat :: ·)
      else
        match begin? b position with
        | some p => decodeFrom (position + 1) (some p) rest
        | none => .error { reason := .start, first := b, position, length := 1 }
    | some p =>
      if p.least ≤ b && b ≤ p.greatest then
        let p := p.add b
        if p.owed == 0 then (decodeFrom (position + 1) none rest).map (Char.ofNat p.bits :: ·)
        else decodeFrom (position + 1) (some p) rest
      else .error (p.fault .continuation)

def decode (octets : List UInt8) : Except Fault Text := decodeFrom 0 none octets

/-- How many octets a text takes. -/
def size (t : Text) : Nat := t.foldr (·.utf8Size + ·) 0

end ComposeLint.Utf8
