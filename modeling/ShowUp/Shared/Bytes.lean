import ShowUp.Shared.Decimal

/-!
# Bytes behind strings

`atob` and `TextDecoder`, as a browser has them: what a string of base64 digits
stands for, and the characters of a sequence of bytes, with U+FFFD for what is
not UTF-8.
-/

namespace ShowUp

set_option autoImplicit false

namespace Base64

def isAsciiBlank (u : UInt16) : Bool := u = 0x9 || u = 0xA || u = 0xC || u = 0xD || u = 0x20

def sextet (u : UInt16) : Option Nat :=
  if 0x41 ≤ u && u ≤ 0x5A then some (u.toNat - 0x41)
  else if 0x61 ≤ u && u ≤ 0x7A then some (u.toNat - 0x47)
  else if 0x30 ≤ u && u ≤ 0x39 then some (u.toNat + 4)
  else if u = 0x2B then some 62
  else if u = 0x2F then some 63
  else none

/-- One or two of the padding signs of a whole number of quadruples go. -/
def dropPadding (text : Text) : Text :=
  if text.length % 4 = 0 then
    match text.reverse with
    | 0x3D :: 0x3D :: rest => rest.reverse
    | 0x3D :: rest => rest.reverse
    | _ => text
  else text

/-- Four digits make three bytes; what is left over of the last ones is dropped. -/
def octets : List Nat → List UInt8
  | a :: b :: c :: d :: rest =>
    (a * 4 + b / 16).toUInt8 :: (b % 16 * 16 + c / 4).toUInt8 :: (c % 4 * 64 + d).toUInt8 ::
      octets rest
  | [a, b, c] => [(a * 4 + b / 16).toUInt8, (b % 16 * 16 + c / 4).toUInt8]
  | [a, b] => [(a * 4 + b / 16).toUInt8]
  | _ => []

/-- `atob(text)`, where it does not throw -/
def atob (text : Text) : Option (List UInt8) :=
  let digits := dropPadding (text.filter fun u => !isAsciiBlank u)
  if digits.length % 4 = 1 then none else (digits.mapM sextet).map octets

end Base64

namespace Utf8

open Utf16

/-- A character of which some bytes are still to come, and the range of the next one. -/
structure Pending where
  needed : Nat
  point : Nat
  lower : UInt8
  upper : UInt8

/-- The first byte of a character. -/
def start (b : UInt8) : List Char × Option Pending :=
  if b < 0x80 then ([Char.ofNat b.toNat], none)
  else if 0xC2 ≤ b && b ≤ 0xDF then ([], some ⟨1, b.toNat - 0xC0, 0x80, 0xBF⟩)
  else if 0xE0 ≤ b && b ≤ 0xEF then
    ([], some ⟨2, b.toNat - 0xE0, if b = 0xE0 then 0xA0 else 0x80,
      if b = 0xED then 0x9F else 0xBF⟩)
  else if 0xF0 ≤ b && b ≤ 0xF4 then
    ([], some ⟨3, b.toNat - 0xF0, if b = 0xF0 then 0x90 else 0x80,
      if b = 0xF4 then 0x8F else 0xBF⟩)
  else ([replacement], none)

def next : Option Pending → UInt8 → List Char × Option Pending
  | none, b => start b
  | some p, b =>
    if p.lower ≤ b && b ≤ p.upper then
      let point := p.point * 64 + (b.toNat - 0x80)
      if p.needed = 1 then ([Char.ofNat point], none)
      else ([], some ⟨p.needed - 1, point, 0x80, 0xBF⟩)
    else
      -- the byte that does not fit may start another character
      (replacement :: (start b).1, (start b).2)

def charsFrom (pending : Option Pending) : List UInt8 → List Char
  | [] => if pending.isSome then [replacement] else []
  | b :: bs => (next pending b).1 ++ charsFrom (next pending b).2 bs

/-- `new TextDecoder().decode(bytes)`, without the byte order mark -/
def decode (bytes : List UInt8) : Text :=
  match charsFrom none bytes with
  | '\uFEFF' :: cs => ofChars cs
  | cs => ofChars cs

end Utf8

end ShowUp
