import ProxyControl.Text.Encoding

namespace ProxyControl.Http

/-- Code points that stand for themselves in every part of a URL. -/
def isUnreserved (p : CodePoint) : Bool :=
  p.isAsciiAlphanumeric || p = .char '-' || p = .char '.' || p = .char '_' || p = .char '~'

/-- A byte as `%` and two digits. -/
def percentByte (b : UInt8) : Text := .char '%' :: (hexDigits 2 b.toNat).asciiUpper

/-- A code point as the bytes of its UTF-8 form, unless it may stand for itself. -/
def percentPoint (isSafe : CodePoint → Bool) (p : CodePoint) : Except EncodingError Text :=
  if isUnreserved p || isSafe p then .ok [p] else (Text.toUtf8 [p]).map fun bytes => bytes.flatMap percentByte

def percentEncode (isSafe : CodePoint → Bool) (t : Text) : Except EncodingError Text :=
  (t.mapM (percentPoint isSafe)).map List.flatten

/-- Printable ASCII without the code points of the given numbers. -/
def isAsciiBut (excluded : List Nat) (p : CodePoint) : Bool :=
  let n := p.toNat
  0x20 ≤ n && n < 0x7F && !excluded.contains n

def isFragmentSafe : CodePoint → Bool := isAsciiBut [0x20, 0x22, 0x3C, 0x3E, 0x60]

def isQuerySafe : CodePoint → Bool := isAsciiBut [0x20, 0x22, 0x23, 0x3C, 0x3E]

def isPathSafe : CodePoint → Bool := isAsciiBut [0x20, 0x22, 0x23, 0x3C, 0x3E, 0x3F, 0x60, 0x7B, 0x7D]

def isUserSafe : CodePoint → Bool :=
  isAsciiBut [0x20, 0x22, 0x23, 0x3C, 0x3E, 0x3F, 0x60, 0x7B, 0x7D, 0x2F, 0x3B, 0x3D, 0x40, 0x5B, 0x5C, 0x5D, 0x5E,
    0x7C]

def isHostSafe (p : CodePoint) : Bool :=
  [0x21, 0x22, 0x24, 0x25, 0x26, 0x27, 0x28, 0x29, 0x2A, 0x2B, 0x2C, 0x3B, 0x3D, 0x5C, 0x60, 0x7B, 0x7C,
    0x7D].contains p.toNat

/-- Undoes percent encoding; a `%` without two digits after it stays. `skip` counts the digits of the
last escape that are still to be passed. -/
def percentBytes (skip : Nat) : Text → Utf8.Bytes
  | [] => []
  | p :: rest =>
    match skip with
    | skip + 1 => percentBytes skip rest
    | 0 =>
      match p, rest with
      | .char '%', high :: low :: _ =>
        match high.hexValue?, low.hexValue? with
        | some h, some l => UInt8.ofNat (h * 16 + l) :: percentBytes 2 rest
        | _, _ => Utf8.encodePoint p ++ percentBytes 0 rest
      | _, _ => Utf8.encodePoint p ++ percentBytes 0 rest

/-- The text that a percent-encoded ASCII text stands for. -/
def percentDecode (t : Text) : Text := Utf8.decodeLeniently (percentBytes 0 t)

/-- One side of a query parameter: its UTF-8 bytes, with `+` for a space. -/
def encodeParameter (t : Text) : Except EncodingError Text := do
  let bytes ← Text.toUtf8 t
  return bytes.flatMap fun b =>
    let p := CodePoint.ofNat b.toNat
    if b < 0x80 && isUnreserved p then [p] else if b = 0x20 then [.char '+'] else percentByte b

/-- A query: parameters joined by `&`. -/
def encodeQuery (parameters : List (Text × Text)) : Except EncodingError Text := do
  let shown ← parameters.mapM fun (name, value) => do
    return (← encodeParameter name) ++ "=" ++ (← encodeParameter value)
  return Text.join "&" shown

end ProxyControl.Http
