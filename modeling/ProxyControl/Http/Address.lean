import ProxyControl.Text.Basic

namespace ProxyControl.Http

/-- Whether a text is a number from 0 to 255 without leading zeros. -/
def isOctet (t : Text) : Bool :=
  match Text.toNat? t with
  | none => false
  | some n => n ≤ 255 && t.length ≤ 3 && (t.length == 1 || t.head? != some (.char '0'))

/-- An address such as `10.0.0.1`. -/
def isIpv4 (t : Text) : Bool :=
  let octets := Text.splitOn (.char '.') t
  octets.length == 4 && octets.all isOctet

def isHextet (t : Text) : Bool := !t.isEmpty && t.length ≤ 4 && t.all fun p => p.hexValue?.isSome

/-- The hextets of an address, where an IPv4 address at the end counts as two. -/
def hextets? (t : Text) : Option (List Text) :=
  let parts := Text.splitOn (.char ':') t
  if parts.length < 3 then none
  else
    match parts.getLast? with
    | some last =>
      if last.contains (.char '.') then
        if isIpv4 last then some (parts.dropLast ++ [[.char '0'], [.char '0']]) else none
      else some parts
    | none => none

/-- Whether the parts between colons make up an address: eight hextets, or fewer around one gap. An empty
part at an end belongs to a gap there. -/
def areHextets (parts : List Text) : Bool :=
  let gaps := (parts.zipIdx.filter fun (part, i) => part.isEmpty && 0 < i && i + 1 < parts.length).map Prod.snd
  match gaps with
  | [] => parts.length == 8 && parts.all isHextet
  | [gap] =>
    let before := parts.take gap
    let after := parts.drop (gap + 1)
    let before := if before == [[]] then [] else before
    let after := if after == [[]] then [] else after
    before.length + after.length < 8 && before.all isHextet && after.all isHextet
  | _ => false

/-- An address such as `fe80::1%eth0`, with a zone perhaps. -/
def isIpv6 (t : Text) : Bool :=
  let (address, zoneIsGood) : Text × Bool :=
    match Text.cut? (.char '%') t with
    | none => (t, true)
    | some (address, zone) => (address, !zone.isEmpty && !zone.contains (.char '%'))
  zoneIsGood && !t.contains (.char '/') && (hextets? address).any fun parts => parts.length ≤ 9 && areHextets parts

/-- Whether a host can be read as four numbers with any code point between them. `states` are the possible
numbers of separators still to come, each with whether a digit came last. -/
def looksNumeric (states : List (Nat × Bool)) : Text → Bool
  | [] => states.contains (0, true)
  | p :: rest =>
    let next := states.flatMap fun (separators, afterDigit) =>
      (if p.isAsciiDigit then [(separators, true)] else []) ++
      (if afterDigit && 0 < separators then [(separators - 1, false)] else [])
    looksNumeric next.eraseDups rest

/-- Hosts of this shape are taken for IPv4 addresses. -/
def isIpv4Shaped (host : Text) : Bool := looksNumeric [(3, false)] host

end ProxyControl.Http
