import ComposeLint.Text.Basic

/-!
Octets written in base 64, where every character gives six bits. Characters outside of the alphabet
are passed over, so the text may be broken into lines. Equals signs fill up the last group of four;
what follows a group that they complete is not read.
-/

namespace ComposeLint.Base64

/-- The six bits that a character stands for. -/
def value? (c : Char) : Option Nat :=
  if 'A' ≤ c && c ≤ 'Z' then some (c.toNat - 'A'.toNat)
  else if 'a' ≤ c && c ≤ 'z' then some (c.toNat - 'a'.toNat + 26)
  else if Text.isFigure c then some (c.toNat - '0'.toNat + 52)
  else if c == '+' then some 62
  else if c == '/' then some 63
  else none

/-- What was read of a group of four: how many characters gave bits, how many signs filled up, and
the bits that do not make an octet yet. -/
structure Group where
  size : Nat
  fills : Nat
  bits : Nat
deriving DecidableEq, Repr

def Group.empty : Group := ⟨0, 0, 0⟩

/-- The group after another six bits, and the octet that they complete. The first character of a
group completes none. -/
def Group.add (g : Group) (six : Nat) : Option UInt8 × Group :=
  if g.size == 0 then (none, ⟨1, 0, six⟩)
  else
    let kept := 6 - 2 * g.size
    (some (UInt8.ofNat (g.bits * Nat.pow 2 (6 - kept) + six / Nat.pow 2 kept)),
      ⟨(g.size + 1) % 4, 0, six % Nat.pow 2 kept⟩)

/-- The octets of a text, `g` having been read before. A group must not be left open. -/
def decodeFrom (g : Group) : Text → Option (List UInt8)
  | [] => if g.size == 0 then some [] else none
  | c :: rest =>
    if c == '=' then
      if 2 ≤ g.size then
        if 4 ≤ g.size + g.fills + 1 then some []
        else decodeFrom { g with fills := g.fills + 1 } rest
      else decodeFrom g rest
    else
      match value? c with
      | none => decodeFrom g rest
      | some six =>
        let (octet?, g) := g.add six
        (decodeFrom g rest).map (octet?.toList ++ ·)

def decode (t : Text) : Option (List UInt8) := decodeFrom Group.empty t

end ComposeLint.Base64
