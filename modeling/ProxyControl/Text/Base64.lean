import ProxyControl.Text.Utf8

namespace ProxyControl.Base64

def digit (n : Nat) : CodePoint :=
  .ofNat <|
    if n < 26 then 0x41 + n
    else if n < 52 then 0x61 + (n - 26)
    else if n < 62 then 0x30 + (n - 52)
    else if n = 62 then 0x2B
    else 0x2F

/-- Three bytes become four digits; a shorter last group is filled up with `=`. -/
def encode : Utf8.Bytes → Text
  | a :: b :: c :: rest =>
    let n := (a.toNat * 256 + b.toNat) * 256 + c.toNat
    digit (n / 0x40000) :: digit (n / 0x1000 % 64) :: digit (n / 0x40 % 64) :: digit (n % 64) :: encode rest
  | [a, b] =>
    let n := (a.toNat * 256 + b.toNat) * 256
    [digit (n / 0x40000), digit (n / 0x1000 % 64), digit (n / 0x40 % 64), .char '=']
  | [a] => [digit (a.toNat / 4), digit (a.toNat % 4 * 16), .char '=', .char '=']
  | [] => []

def digitValue? (p : CodePoint) : Option Nat :=
  let n := p.toNat
  if p.isAsciiUpper then some (n - 0x41)
  else if p.isAsciiLower then some (n - 0x61 + 26)
  else if p.isAsciiDigit then some (n - 0x30 + 52)
  else if n = 0x2B then some 62
  else if n = 0x2F then some 63
  else none

/-- Why a text is not the base 64 form of bytes. -/
inductive Error where
  | loneDigit (digits : Nat)
  | padding
  deriving DecidableEq, Repr

def Error.message : Error → Text
  | loneDigit digits =>
    "Invalid base64-encoded string: number of data characters (" ++ Text.ofNat digits ++
      ") cannot be 1 more than a multiple of 4"
  | padding => "Incorrect padding"

/-- Decodes a text, passing over everything that is neither a digit nor padding. `place` is the place of the
next digit in its group, `left` what the digits before it left over, and `pads` the padding right before. -/
def decodeFrom (place left pads written : Nat) : Text → Except Error Utf8.Bytes
  | [] =>
    if place = 0 then .ok []
    else if place = 1 then .error (.loneDigit (written / 3 * 4 + 1))
    else .error .padding
  | p :: rest =>
    if p = .char '=' then
      if 2 ≤ place ∧ 4 ≤ place + pads + 1 then .ok []
      else decodeFrom place left (if 2 ≤ place then pads + 1 else pads) written rest
    else
      match digitValue? p with
      | none => decodeFrom place left pads written rest
      | some d =>
        if place = 0 then decodeFrom 1 d 0 written rest
        else if place = 1 then
          (decodeFrom 2 (d % 16) 0 (written + 1) rest).map (UInt8.ofNat (left * 4 + d / 16) :: ·)
        else if place = 2 then
          (decodeFrom 3 (d % 4) 0 (written + 1) rest).map (UInt8.ofNat (left * 16 + d / 4) :: ·)
        else (decodeFrom 0 0 0 (written + 1) rest).map (UInt8.ofNat (left * 64 + d) :: ·)

def decode (t : Text) : Except Error Utf8.Bytes := decodeFrom 0 0 0 0 t

end ProxyControl.Base64
