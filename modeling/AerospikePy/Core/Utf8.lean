import Mathlib.Logic.Basic

/-!
# `String::from_utf8_lossy`

Each maximal piece of a byte string that starts no valid sequence is replaced by one
U+FFFD.
-/

namespace AerospikePy.Core.Utf8

/-- What a lead byte asks for: how many bytes follow, and the bounds of the first of
them, which exclude overlong forms, surrogates and what lies above U+10FFFF. -/
def lead (b : UInt8) : Option (Nat × UInt8 × UInt8) :=
  if 0xC2 ≤ b ∧ b ≤ 0xDF then some (1, 0x80, 0xBF)
  else if b = 0xE0 then some (2, 0xA0, 0xBF)
  else if b = 0xED then some (2, 0x80, 0x9F)
  else if 0xE1 ≤ b ∧ b ≤ 0xEF then some (2, 0x80, 0xBF)
  else if b = 0xF0 then some (3, 0x90, 0xBF)
  else if 0xF1 ≤ b ∧ b ≤ 0xF3 then some (3, 0x80, 0xBF)
  else if b = 0xF4 then some (3, 0x80, 0x8F)
  else none

def continues (b : UInt8) : Bool := 0x80 ≤ b ∧ b ≤ 0xBF

/-- The scalar value of a valid sequence. -/
def scalar (b : UInt8) (tail : List UInt8) : Char :=
  let top := match tail.length with
    | 1 => b.toNat % 32
    | 2 => b.toNat % 16
    | _ => b.toNat % 8
  Char.ofNat (tail.foldl (fun n t => n * 64 + t.toNat % 64) top)

def decodeLossy : List UInt8 → List Char
  | [] => []
  | b :: rest =>
    if b < 0x80 then Char.ofNat b.toNat :: decodeLossy rest
    else match lead b with
      | none => '\uFFFD' :: decodeLossy rest
      | some (extra, lo, hi) =>
        match rest with
        | [] => ['\uFFFD']
        | b₁ :: rest₁ =>
          if ¬(lo ≤ b₁ ∧ b₁ ≤ hi) then '\uFFFD' :: decodeLossy (b₁ :: rest₁)
          else if extra = 1 then scalar b [b₁] :: decodeLossy rest₁
          else match rest₁ with
            | [] => ['\uFFFD']
            | b₂ :: rest₂ =>
              if ¬continues b₂ then '\uFFFD' :: decodeLossy (b₂ :: rest₂)
              else if extra = 2 then scalar b [b₁, b₂] :: decodeLossy rest₂
              else match rest₂ with
                | [] => ['\uFFFD']
                | b₃ :: rest₃ =>
                  if ¬continues b₃ then '\uFFFD' :: decodeLossy (b₃ :: rest₃)
                  else scalar b [b₁, b₂, b₃] :: decodeLossy rest₃

def fromUtf8Lossy (bytes : List UInt8) : String := String.ofList (decodeLossy bytes)

end AerospikePy.Core.Utf8
