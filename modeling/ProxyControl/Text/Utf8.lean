import ProxyControl.Text.Basic

namespace ProxyControl.Utf8

/-- A byte sequence. -/
abbrev Bytes := List UInt8

/-- The bytes of one scalar value, or of a surrogate written the same way. -/
def encodePoint (p : CodePoint) : Bytes :=
  let n := p.toNat
  let byte (k : Nat) : UInt8 := UInt8.ofNat k
  if n < 0x80 then [byte n]
  else if n < 0x800 then [byte (0xC0 + n / 0x40), byte (0x80 + n % 0x40)]
  else if n < 0x10000 then
    [byte (0xE0 + n / 0x1000), byte (0x80 + n / 0x40 % 0x40), byte (0x80 + n % 0x40)]
  else
    [byte (0xF0 + n / 0x40000), byte (0x80 + n / 0x1000 % 0x40), byte (0x80 + n / 0x40 % 0x40),
      byte (0x80 + n % 0x40)]

/-- The bytes of a text, surrogates included. -/
def encodeLoosely (t : Text) : Bytes := t.flatMap encodePoint

/-- Where decoding stands between two bytes: at the start of a code point, or inside one with `value`
read so far, `more` bytes to come and the next byte within `low` and `high`. `seen` are its bytes. -/
structure Pending where
  value : Nat
  more : Nat
  low : UInt8
  high : UInt8
  seen : Bytes
  deriving Repr, DecidableEq

inductive State where
  | start
  | inside (pending : Pending)
  deriving Repr, DecidableEq

/-- What a byte does to a state: it may complete a code point, be taken, or not fit. -/
inductive Step where
  | point (p : CodePoint)
  | more (pending : Pending)
  | refused

/-- Whether surrogates are taken as code points of their own. -/
inductive Surrogates where
  | refuse
  | pass
  deriving DecidableEq, Repr

def lead (surrogates : Surrogates) (b : UInt8) : Step :=
  if b < 0x80 then .point (.ofNat b.toNat)
  else if b < 0xC2 then .refused
  else if b < 0xE0 then .more ⟨b.toNat - 0xC0, 1, 0x80, 0xBF, [b]⟩
  else if b < 0xF0 then
    .more ⟨b.toNat - 0xE0, 2, if b = 0xE0 then 0xA0 else 0x80,
      if b = 0xED ∧ surrogates = .refuse then 0x9F else 0xBF, [b]⟩
  else if b < 0xF5 then
    .more ⟨b.toNat - 0xF0, 3, if b = 0xF0 then 0x90 else 0x80, if b = 0xF4 then 0x8F else 0xBF, [b]⟩
  else .refused

def continuation (pending : Pending) (b : UInt8) : Step :=
  if pending.low ≤ b && b ≤ pending.high then
    let value := pending.value * 0x40 + (b.toNat - 0x80)
    match pending.more with
    | 0 | 1 => .point (.ofNat value)
    | more + 1 => .more ⟨value, more, 0x80, 0xBF, pending.seen ++ [b]⟩
  else .refused

/-- Why bytes are not UTF-8. -/
inductive Fault where
  | invalidStart
  | invalidContinuation
  | unexpectedEnd
  deriving DecidableEq, Repr

def Fault.reason : Fault → Text
  | invalidStart => "invalid start byte"
  | invalidContinuation => "invalid continuation byte"
  | unexpectedEnd => "unexpected end of data"

/-- Bytes `first` up to but excluding `next` do not decode. -/
structure Error where
  first : Nat
  next : Nat
  byte : UInt8
  fault : Fault
  deriving Repr

/-- The error of a code point that the byte at `position`, or the end, cuts short. A surrogate that is
cut short counts as refused at its second byte, as it would have been where surrogates are refused. -/
def Pending.error (pending : Pending) (position : Nat) (fault : Fault) : Error :=
  let first := position - pending.seen.length
  match pending.seen with
  | 0xED :: second :: _ =>
    if second > 0x9F then ⟨first, first + 1, 0xED, .invalidContinuation⟩ else ⟨first, position, 0xED, fault⟩
  | seen => ⟨first, position, seen.headD 0, fault⟩

/-- Decodes from a position, refusing the first bytes that are not UTF-8. -/
def decodeFrom (surrogates : Surrogates) (position : Nat) (state : State) : Bytes → Except Error Text
  | [] =>
    match state with
    | .start => .ok []
    | .inside pending => .error (pending.error position .unexpectedEnd)
  | b :: rest =>
    match state with
    | .start =>
      match lead surrogates b with
      | .point p => (decodeFrom surrogates (position + 1) .start rest).map (p :: ·)
      | .more pending => decodeFrom surrogates (position + 1) (.inside pending) rest
      | .refused => .error ⟨position, position + 1, b, .invalidStart⟩
    | .inside pending =>
      match continuation pending b with
      | .point p => (decodeFrom surrogates (position + 1) .start rest).map (p :: ·)
      | .more pending => decodeFrom surrogates (position + 1) (.inside pending) rest
      | .refused => .error (pending.error position .invalidContinuation)

def decode (surrogates : Surrogates) (bytes : Bytes) : Except Error Text :=
  decodeFrom surrogates 0 .start bytes

/-- One byte of lenient decoding: the text it completes and the state after it. Bytes that fit nowhere
become one replacement character per longest run that could have begun a code point. -/
def feed (state : State) (b : UInt8) : Text × State :=
  let atStart : Text × State :=
    match lead .refuse b with
    | .point p => ([p], .start)
    | .more pending => ([], .inside pending)
    | .refused => ([.char '\uFFFD'], .start)
  match state with
  | .start => atStart
  | .inside pending =>
    match continuation pending b with
    | .point p => ([p], .start)
    | .more pending => ([], .inside pending)
    | .refused => (.char '\uFFFD' :: atStart.1, atStart.2)

/-- Lenient decoding of a chunk; what a code point still lacks is kept in the state. -/
def feedAll (state : State) : Bytes → Text × State
  | [] => ([], state)
  | b :: rest =>
    let (text, state) := feed state b
    let (more, state) := feedAll state rest
    (text ++ more, state)

/-- What remains to be written when the bytes end. -/
def finish : State → Text
  | .start => []
  | .inside _ => [.char '\uFFFD']

/-- Lenient decoding of a whole byte sequence. -/
def decodeLeniently (bytes : Bytes) : Text :=
  let (text, state) := feedAll .start bytes
  text ++ finish state

end ProxyControl.Utf8
