import ProxyControl.Text.Basic
import ProxyControl.Unicode.Printable

namespace ProxyControl

def hexDigit (n : Nat) : CodePoint :=
  .ofNat (if n < 10 then 0x30 + n else 0x61 + (n - 10))

/-- The low `width` hexadecimal digits of a number, most significant first. -/
def hexDigits : Nat → Nat → Text
  | 0, _ => []
  | width + 1, n => hexDigits width (n / 16) ++ [hexDigit (n % 16)]

namespace Text

/-- How a quoted text shows one code point between quotes of the given kind. -/
def quotedPoint (quote p : CodePoint) : Text :=
  let n := p.toNat
  if p = quote ∨ p = .char '\\' then [.char '\\', p]
  else if n = 0x09 then "\\t"
  else if n = 0x0A then "\\n"
  else if n = 0x0D then "\\r"
  else if Unicode.isPrintable p then [p]
  else if n < 0x100 then "\\x" ++ hexDigits 2 n
  else if n < 0x10000 then "\\u" ++ hexDigits 4 n
  else "\\U" ++ hexDigits 8 n

/-- Single quotes, unless the text holds single quotes and no double ones. -/
def quoteFor (t : Text) : CodePoint :=
  if t.contains (.char '\'') && !t.contains (.char '"') then .char '"' else .char '\''

/-- The text between quotes, as messages and log lines show it. -/
def quoted (t : Text) : Text :=
  let quote := quoteFor t
  quote :: t.flatMap (quotedPoint quote) ++ [quote]

end Text

end ProxyControl
