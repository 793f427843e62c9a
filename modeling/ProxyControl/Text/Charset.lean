import ProxyControl.Text.Quote
import ProxyControl.Text.Utf8

namespace ProxyControl

open Utf8 (Bytes)

/-- Bytes that an encoding cannot stand for, from `first` up to but excluding `next`. -/
structure DecodingError where
  encoding : Text
  first : Nat
  next : Nat
  byte : UInt8
  reason : Text
  deriving Repr

def DecodingError.message (e : DecodingError) : Text :=
  let place : Text :=
    if e.next = e.first + 1 then "byte 0x" ++ hexDigits 2 e.byte.toNat ++ " in position " ++ Text.ofNat e.first
    else "bytes in position " ++ Text.ofNat e.first ++ "-" ++ Text.ofNat (e.next - 1)
  "'" ++ e.encoding ++ "' codec can't decode " ++ place ++ ": " ++ e.reason

def Utf8.Error.general (e : Utf8.Error) : DecodingError := ⟨"utf-8", e.first, e.next, e.byte, e.fault.reason⟩

namespace Utf16

/-- The 16 bit units of a byte sequence; a byte left over makes it invalid. -/
def units (bigEndian : Bool) (position : Nat) : Bytes → Except DecodingError (List Nat)
  | a :: b :: rest => do
    let unit := if bigEndian then a.toNat * 256 + b.toNat else b.toNat * 256 + a.toNat
    return unit :: (← units bigEndian (position + 2) rest)
  | [a] =>
    .error ⟨if bigEndian then "utf-16-be" else "utf-16-le", position, position + 1, a, "truncated data"⟩
  | [] => .ok []

/-- Joins surrogate pairs; a surrogate without its other half stands for itself. -/
def join : List Nat → Text
  | high :: low :: rest =>
    if 0xD800 ≤ high ∧ high < 0xDC00 ∧ 0xDC00 ≤ low ∧ low < 0xE000 then
      .ofNat (0x10000 + (high - 0xD800) * 0x400 + (low - 0xDC00)) :: join rest
    else .ofNat high :: join (low :: rest)
  | [unit] => [.ofNat unit]
  | [] => []

def decode (bigEndian : Bool) (bytes : Bytes) : Except DecodingError Text := (units bigEndian 0 bytes).map join

end Utf16

namespace Utf32

def decodeFrom (bigEndian : Bool) (position : Nat) : Bytes → Except DecodingError Text
  | a :: b :: c :: d :: rest => do
    let value (w x y z : UInt8) : Nat := ((w.toNat * 256 + x.toNat) * 256 + y.toNat) * 256 + z.toNat
    let n := if bigEndian then value a b c d else value d c b a
    let encoding : Text := if bigEndian then "utf-32-be" else "utf-32-le"
    if n ≥ 0x110000 then
      .error ⟨encoding, position, position + 4, a, "code point not in range(0x110000)"⟩
    else return .ofNat n :: (← decodeFrom bigEndian (position + 4) rest)
  | [] => .ok []
  | a :: rest =>
    .error ⟨if bigEndian then "utf-32-be" else "utf-32-le", position, position + 1 + rest.length, a,
      "truncated data"⟩

def decode (bigEndian : Bool) (bytes : Bytes) : Except DecodingError Text := decodeFrom bigEndian 0 bytes

end Utf32

/-- Decodes a JSON document. Its byte order mark, or the zeros among its first bytes, tell the encoding. -/
def decodeDocument (bytes : Bytes) : Except DecodingError Text :=
  let utf8 (bytes : Bytes) := (Utf8.decode .pass bytes).mapError Utf8.Error.general
  match bytes with
  | 0 :: 0 :: 0xFE :: 0xFF :: rest => Utf32.decode true rest
  | 0xFF :: 0xFE :: 0 :: 0 :: rest => Utf32.decode false rest
  | 0xFE :: 0xFF :: rest => Utf16.decode true rest
  | 0xFF :: 0xFE :: rest => Utf16.decode false rest
  | 0xEF :: 0xBB :: 0xBF :: rest => utf8 rest
  | 0 :: 0 :: _ :: _ :: _ => Utf32.decode true bytes
  | 0 :: _ :: _ :: _ :: _ => Utf16.decode true bytes
  | _ :: 0 :: 0 :: 0 :: _ => Utf32.decode false bytes
  | _ :: 0 :: _ :: _ :: _ => Utf16.decode false bytes
  | [0, _] => Utf16.decode true bytes
  | [_, 0] => Utf16.decode false bytes
  | _ => utf8 bytes

/-- The character sets of text bodies. -/
inductive Charset where
  | utf8
  | ascii
  | latin1
  deriving DecidableEq, Repr

namespace Charset

def asciiNames : List Text := ["ascii", "us-ascii", "646", "iso646-us", "ansi_x3.4-1968", "cp367", "ibm367"]

def latin1Names : List Text :=
  ["latin-1", "latin1", "latin_1", "latin", "l1", "iso-8859-1", "iso8859-1", "iso_8859-1", "iso8859_1", "8859",
    "cp819", "ibm819"]

/-- The character set of a name; unknown names mean UTF-8. -/
def named (name : Text) : Charset :=
  let name := name.asciiLower
  if asciiNames.contains name then ascii
  else if latin1Names.contains name then latin1
  else utf8

/-- One step of lenient decoding: the text a byte completes. Only UTF-8 keeps a state. -/
def feed (charset : Charset) (state : Utf8.State) (b : UInt8) : Text × Utf8.State :=
  match charset with
  | utf8 => Utf8.feed state b
  | ascii => ([if b < 0x80 then .ofNat b.toNat else .char '\uFFFD'], .start)
  | latin1 => ([.ofNat b.toNat], .start)

def feedAll (charset : Charset) (state : Utf8.State) : Bytes → Text × Utf8.State
  | [] => ([], state)
  | b :: rest =>
    let (text, state) := charset.feed state b
    let (more, state) := charset.feedAll state rest
    (text ++ more, state)

def decodeLeniently (charset : Charset) (bytes : Bytes) : Text :=
  let (text, state) := charset.feedAll .start bytes
  text ++ Utf8.finish state

end Charset

end ProxyControl
