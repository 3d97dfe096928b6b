import Stylebook.Text.Basic

/-!
# UTF-8

`decodeUtf8? bytes` is the text that bytes encode. Only shortest encodings of Unicode scalar values count: no
surrogates, nothing above U+10FFFF, and no sequence that is cut short.
-/

namespace Stylebook.Text

def isContinuation (b : UInt8) : Bool := 0x80 ≤ b.toNat && b.toNat < 0xc0

/-- The six bits that a continuing byte adds. -/
def continuationBits (b : UInt8) : Nat := b.toNat - 0x80

/-- The number is a scalar value beyond those that need fewer bytes. -/
def scalarFrom? (least n : Nat) : Option Char :=
  if least ≤ n && n.isValidChar then some (Char.ofNat n) else none

def decodeUtf8? : List UInt8 → Option Text
  | [] => some []
  | a :: rest =>
    if a.toNat < 0x80 then (decodeUtf8? rest).map (Char.ofNat a.toNat :: ·)
    else if a.toNat < 0xc2 then none
    else if a.toNat < 0xe0 then
      match rest with
      | b :: rest =>
        if isContinuation b then
          match scalarFrom? 0x80 (0x40 * (a.toNat - 0xc0) + continuationBits b) with
          | some c => (decodeUtf8? rest).map (c :: ·)
          | none => none
        else none
      | _ => none
    else if a.toNat < 0xf0 then
      match rest with
      | b :: c :: rest =>
        if isContinuation b && isContinuation c then
          match scalarFrom? 0x800
              (0x1000 * (a.toNat - 0xe0) + 0x40 * continuationBits b + continuationBits c) with
          | some x => (decodeUtf8? rest).map (x :: ·)
          | none => none
        else none
      | _ => none
    else if a.toNat < 0xf5 then
      match rest with
      | b :: c :: d :: rest =>
        if isContinuation b && isContinuation c && isContinuation d then
          match scalarFrom? 0x10000 (0x40000 * (a.toNat - 0xf0) + 0x1000 * continuationBits b +
              0x40 * continuationBits c + continuationBits d) with
          | some x => (decodeUtf8? rest).map (x :: ·)
          | none => none
        else none
      | _ => none
    else none

end Stylebook.Text
