import ProxyControl.Text.Quote
import ProxyControl.Unicode.Case
import ProxyControl.Unicode.DomainNames

namespace ProxyControl.Http

namespace Punycode

/-- The digits `a` to `z` and `0` to `9` of base 36. -/
def digit (n : Nat) : CodePoint := .ofNat (if n < 26 then 0x61 + n else 0x30 + (n - 26))

/-- The threshold of a digit place: between 1 and 26, growing away from the bias. -/
def threshold (place bias : Nat) : Nat := if place ≤ bias then 1 else if place ≥ bias + 26 then 26 else place - bias

/-- Scales a delta down until it is small; yields it with the places passed. -/
def settle (delta places : Nat) : Nat × Nat :=
  if 455 < delta then settle (delta / 35) (places + 36) else (delta, places)
termination_by delta
decreasing_by exact Nat.div_lt_self (by omega) (by omega)

/-- The bias after a delta was written. -/
def adapt (delta written : Nat) (isFirst : Bool) : Nat :=
  let delta := if isFirst then delta / 700 else delta / 2
  let (delta, places) := settle (delta + delta / written) 0
  places + 36 * delta / (delta + 38)

/-- A delta as digits of growing weight. The fuel bounds the number of digits by the delta itself. -/
def deltaDigits (bias place delta : Nat) : Nat → Text
  | 0 => []
  | fuel + 1 =>
    let t := threshold place bias
    if delta < t then [digit delta]
    else digit (t + (delta - t) % (36 - t)) :: deltaDigits bias (place + 36) ((delta - t) / (36 - t)) fuel

/-- Where the encoder stands: the next code point it looks for, the delta, the bias, and what it wrote. -/
structure Progress where
  next : Nat
  delta : Nat
  bias : Nat
  handled : Nat
  basic : Nat
  output : Text

/-- One pass over the label for the code point `point`. -/
def pass (point : Nat) (state : Progress) : List Nat → Progress
  | [] => state
  | c :: rest =>
    if c < point then pass point { state with delta := state.delta + 1 } rest
    else if c = point then
      let digits := deltaDigits state.bias 36 state.delta (state.delta + 1)
      let bias := adapt state.delta (state.handled + 1) (state.handled = state.basic)
      pass point { state with delta := 0, bias, handled := state.handled + 1, output := state.output ++ digits } rest
    else pass point state rest

/-- Writes the code points beyond ASCII in order. Every round handles one of them at least. -/
def rounds (label : List Nat) (state : Progress) : Nat → Text
  | 0 => state.output
  | fuel + 1 =>
    match (label.filter (· ≥ state.next)).min? with
    | none => state.output
    | some point =>
      let delta := state.delta + (point - state.next) * (state.handled + 1)
      let state := pass point { state with next := point, delta } label
      rounds label { state with next := point + 1, delta := state.delta + 1 } fuel

def encode (label : Text) : Text :=
  let basic := label.filter CodePoint.isAscii
  let output : Text := if basic.isEmpty then [] else basic ++ "-"
  rounds (label.map CodePoint.toNat) ⟨0x80, 0, 72, basic.length, basic.length, output⟩ (label.length + 1)

/-- The value of a digit. -/
def digitValue? (p : CodePoint) : Option Nat :=
  let n := p.toNat
  if 0x61 ≤ n && n ≤ 0x7A then some (n - 0x61)
  else if 0x41 ≤ n && n ≤ 0x5A then some (n - 0x41)
  else if 0x30 ≤ n && n ≤ 0x39 then some (n - 0x30 + 26)
  else none

/-- Reads a delta up to its first digit below the threshold; yields what follows it too. -/
def delta? (bias place weight sum : Nat) : Text → Option (Nat × Text)
  | [] => none
  | p :: rest =>
    (digitValue? p).bind fun value =>
      let t := threshold place bias
      if value < t then some (sum + value * weight, rest)
      else delta? bias (place + 36) (weight * (36 - t)) (sum + value * weight) rest

/-- Inserts the code points that the digits stand for, from the code point and the position that were reached. Every
one of them takes a digit at least. -/
def insertions (point position bias : Nat) (isFirst : Bool) (label digits : Text) : Nat → Option Text
  | 0 => some label
  | fuel + 1 =>
    if digits.isEmpty then some label
    else
      (delta? bias 36 1 0 digits).bind fun (delta, rest) =>
        let written := label.length + 1
        let point := point + (position + delta) / written
        let position := (position + delta) % written
        if 0x10FFFF < point then none
        else
          insertions point (position + 1) (adapt delta written isFirst) false
            (label.take position ++ CodePoint.ofNat point :: label.drop position) rest fuel

/-- The label that an encoded one stands for. -/
def decode? (encoded : Text) : Option Text :=
  let digits := (encoded.reverse.takeWhile (· ≠ .char '-')).reverse
  let basic := encoded.take (encoded.length - digits.length - 1)
  insertions 0x80 0 72 true basic digits digits.length

end Punycode

def isFullStop (p : CodePoint) : Bool :=
  let n := p.toNat
  n == 0x2E || n == 0x3002 || n == 0xFF0E || n == 0xFF61

/-- The labels of a domain name; full stops of other scripts separate them too. -/
def labels (name : Text) : List Text :=
  Text.splitOn (.char '.') (name.map fun p => if isFullStop p then .char '.' else p)

def isKanaOrHan (n : Nat) : Bool :=
  Unicode.inRanges n [(0x3005, 0x3005), (0x3007, 0x3007), (0x3041, 0x3096), (0x309D, 0x309F), (0x30A1, 0x30FA),
    (0x30FD, 0x30FF), (0x31F0, 0x31FF), (0x3400, 0x4DBF), (0x4E00, 0x9FFF), (0xFF66, 0xFF9D), (0x20000, 0x323AF)]

/-- Whether the code point at a position of a label is allowed there. -/
def isAllowedAt (label : List Nat) (position n : Nat) : Bool :=
  if n < 0x80 then n == 0x2D || (0x30 ≤ n && n ≤ 0x39) || (0x61 ≤ n && n ≤ 0x7A)
  else if n = 0xB7 then
    0 < position && label[position - 1]? == some 0x6C && label[position + 1]? == some 0x6C
  else if n = 0x30FB then label.any isKanaOrHan
  else if 0x660 ≤ n ∧ n ≤ 0x669 then !label.any fun m => 0x6F0 ≤ m && m ≤ 0x6F9
  else if 0x6F0 ≤ n ∧ n ≤ 0x6F9 then !label.any fun m => 0x660 ≤ m && m ≤ 0x669
  else Unicode.inRanges n Unicode.labelRanges

/-- Code points that are allowed in some contexts. -/
def isContextual (n : Nat) : Bool :=
  Unicode.inRanges n [(0xB7, 0xB7), (0x375, 0x375), (0x5F3, 0x5F4), (0x660, 0x669), (0x6F0, 0x6F9), (0x30FB, 0x30FB)]

/-- What is said of a code point that is not allowed at its position. -/
def disallowed (label : Text) (position n : Nat) : Text :=
  let width := if n < 0x10000 then 4 else if n < 0x100000 then 5 else 6
  let name : Text := "U+" ++ (hexDigits width n).asciiUpper
  let place := Text.ofNat (position + 1)
  if isContextual n then "Codepoint " ++ name ++ " not allowed at position " ++ place ++ " in " ++ label.quoted
  else "Codepoint " ++ name ++ " at position " ++ place ++ " of " ++ label.quoted ++ " not allowed"

/-- Why a label is not well formed: a hyphen at its ends or at its third and fourth place, a mark at its start, or a
code point that is not allowed. -/
def labelFault? (label : Text) : Option Text :=
  let points := label.map CodePoint.toNat
  if points.isEmpty then some "Empty Label"
  else if 254 < points.length then some "Label too long"
  else if (points.drop 2).take 2 = [0x2D, 0x2D] then
    some "Label has disallowed hyphens in 3rd and 4th position"
  else if points.head? = some 0x2D ∨ points.getLast? = some 0x2D then
    some "Label must not start or end with a hyphen"
  else if points.head?.any fun n => Unicode.inRanges n Unicode.markRanges then
    some "Label begins with an illegal combining character"
  else (points.zipIdx.find? fun (n, i) => !isAllowedAt points i n).map fun (n, i) => disallowed label i n

/-- A label that has to be well formed. -/
def checkLabel (label : Text) : Except Text Text := (labelFault? label).elim (.ok label) .error

/-- The label that a label in ASCII stands for. -/
def readLabel (label : Text) : Except Text Text :=
  let label := label.asciiLower
  if ("xn--" : Text).isPrefixOf label then
    let encoded := label.drop 4
    if encoded.isEmpty then .error "Malformed A-label, no Punycode eligible content found"
    else if encoded.getLast? = some (.char '-') then .error "A-label must not end with a hyphen"
    else (Punycode.decode? encoded).elim (.error "Invalid A-label") checkLabel
  else checkLabel label

/-- The domain name that a domain name in ASCII stands for. -/
def readDomain (name : Text) : Except Text Text :=
  if 254 < name.length then .error "Domain too long"
  else
    let parts := labels name
    let trailing := parts.getLast? == some []
    ((if trailing then parts.dropLast else parts).mapM readLabel).map fun read =>
      Text.join "." (if trailing then read ++ [[]] else read)

/-- The ASCII form of a label. A label that has that form already is kept. -/
def asciiLabel? (label : Text) : Option Text :=
  if label.all CodePoint.isAscii then
    if (readLabel label).isOk ∧ label.length ≤ 63 then some label else none
  else if (labelFault? label).isNone then
    let encoded := "xn--" ++ Punycode.encode label
    if encoded.length ≤ 63 then some encoded else none
  else none

/-- The ASCII form of a domain name with code points beyond ASCII. -/
def asciiDomain? (name : Text) : Option Text := do
  let parts := labels name
  let trailing := 1 < parts.length && parts.getLast? == some []
  let encoded ← (if trailing then parts.dropLast else parts).mapM asciiLabel?
  let domain := Text.join "." (if trailing then encoded ++ [[]] else encoded)
  if domain.length ≤ (if trailing then 254 else 253) then some domain else none

end ProxyControl.Http
