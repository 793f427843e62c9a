import ProxyControl.Text.Quote
import ProxyControl.Text.Utf8

namespace ProxyControl

/-- Code points that an encoding has no bytes for, from `first` up to but excluding `next`. -/
structure EncodingError where
  encoding : Text
  first : Nat
  next : Nat
  point : CodePoint
  reason : Text
  deriving Repr

/-- A code point named by its number alone. -/
def CodePoint.escaped (p : CodePoint) : Text :=
  let n := p.toNat
  if n < 0x100 then "\\x" ++ hexDigits 2 n
  else if n < 0x10000 then "\\u" ++ hexDigits 4 n
  else "\\U" ++ hexDigits 8 n

def EncodingError.message (e : EncodingError) : Text :=
  let place : Text :=
    if e.next = e.first + 1 then "character '" ++ e.point.escaped ++ "' in position " ++ Text.ofNat e.first
    else "characters in position " ++ Text.ofNat e.first ++ "-" ++ Text.ofNat (e.next - 1)
  "'" ++ e.encoding ++ "' codec can't encode " ++ place ++ ": " ++ e.reason

namespace Text

/-- The first run of code points that are not encodable, as an error of the encoding. -/
def unencodable? (encoding reason : Text) (isEncodable : CodePoint → Bool) (t : Text) : Option EncodingError :=
  let first := (t.takeWhile isEncodable).length
  match t.drop first with
  | [] => none
  | p :: rest =>
    some ⟨encoding, first, first + 1 + (rest.takeWhile fun p => !isEncodable p).length, p, reason⟩

def isScalar : CodePoint → Bool
  | .char _ => true
  | .surrogate _ => false

/-- The UTF-8 bytes of a text without surrogates. -/
def toUtf8 (t : Text) : Except EncodingError Utf8.Bytes :=
  match unencodable? "utf-8" "surrogates not allowed" isScalar t with
  | some e => .error e
  | none => .ok (Utf8.encodeLoosely t)

/-- The bytes of an ASCII text. -/
def toAscii (t : Text) : Except EncodingError Utf8.Bytes :=
  match unencodable? "ascii" "ordinal not in range(128)" CodePoint.isAscii t with
  | some e => .error e
  | none => .ok (Utf8.encodeLoosely t)

end Text

end ProxyControl
