import HtmlMarkdown.Error
import HtmlMarkdown.Text.Digit

/-!
# Hosts of addresses

A host may stand in brackets, and then it is an address of the network whose groups are separated by
colons. Before it, up to an `@`, may be the name of a user; after it, behind a colon, a port.

* `Host.isIPv4`, `Host.isIPv6`, `Host.isIPvFuture`: the addresses of the network;
* `Host.inBrackets`: what stands in the brackets of a host;
* `Host.check`: whether an address may have a host.
-/

namespace HtmlMarkdown

/-- A character that ends a host. -/
def endsHost (c : Char) : Bool := c == '/' || c == '?' || c == '#'

/-- The codes of characters that stand for others, one of which ends a host or a part of it. -/
def disguisedCodes : List Nat := [
  0x2047, 0x2048, 0x2049, 0x2100, 0x2101, 0x2105, 0x2106, 0x2A74, 0xFE13, 0xFE16, 0xFE55, 0xFE56,
  0xFE5F, 0xFE6B, 0xFF03, 0xFF0F, 0xFF1A, 0xFF1F, 0xFF20]

namespace Host

/-! ## Addresses of the network -/

/-- A number from 0 to 255 without zeros before it. -/
def isByteNumber (s : Text) : Bool :=
  !s.isEmpty && s.length ≤ 3 && s.all Char.isDigit && (s == ['0'] || !Text.startsWith '0' s) &&
    decimalNumber s ≤ 255

/-- Four numbers from 0 to 255 with periods between them. -/
def isIPv4 (s : Text) : Bool :=
  let parts := Text.split (· == '.') s
  parts.length == 4 && parts.all isByteNumber

/-- A group of one to four hexadecimal digits. -/
def isGroup (s : Text) : Bool :=
  !s.isEmpty && s.length ≤ 4 && s.all fun c => (hexValue? c).isSome

/-- The texts between the colons of a text; an empty text has none. -/
def colonParts (s : Text) : List Text := if s.isEmpty then [] else Text.split (· == ':') s

/-- How many groups texts are, if they are groups; numbers with periods at the end are two. -/
def groupCount? : List Text → Option Nat
  | [] => some 0
  | [part] => if isGroup part then some 1 else if isIPv4 part then some 2 else none
  | part :: parts => if isGroup part then (groupCount? parts).map (· + 1) else none

/-- Eight groups with colons between them; two colons may stand for those that are missing. -/
def isEightGroups (s : Text) : Bool :=
  match Text.splitBy? (Text.dropStart? "::".toList) s with
  | none => groupCount? (colonParts s) == some 8
  | some (before, after) =>
    let heads := colonParts before
    heads.all isGroup && (groupCount? (colonParts after)).any fun n => heads.length + n < 8

/-- Eight groups, and behind a percent sign the zone that they are in, if one is told. -/
def isIPv6 (s : Text) : Bool :=
  match Text.splitAt? '%' s with
  | none => isEightGroups s
  | some (groups, zone) => !zone.isEmpty && !zone.elem '%' && isEightGroups groups

/-- A `v`, the number of a version in hexadecimal digits, a period, and something more. -/
def isIPvFuture : Text → Bool
  | 'v' :: s =>
    match s.span fun c => (hexValue? c).isSome with
    | (_ :: _, '.' :: _ :: _) => true
    | _ => false
  | _ => false

/-! ## Brackets -/

/-- A host without the name of a user before it. -/
def dropUser (host : Text) : Text := (host.reverse.takeWhile (· != '@')).reverse

/-- What stands in the brackets of a host, or up to its port if the brackets are in the name of a
user; nothing if there is more around the brackets than such a name and a port. -/
def inBrackets (host : Text) : Option Text :=
  let host := dropUser host
  match Text.splitAt? '[' host with
  | none => some (host.takeWhile (· != ':'))
  | some (_ :: _, _) => none
  | some ([], rest) =>
    let (inner, port) := rest.span (· != ']')
    match port with
    | [] | [_] | _ :: ':' :: _ => some inner
    | _ => none

/-- What stands in brackets must be an address of the network with colons, or one to come. -/
def checkBracketed (inner : Text) : Except Error Unit :=
  if Text.startsWith 'v' inner then
    if isIPvFuture inner then .ok () else .error .invalidIPvFuture
  else if isIPv4 inner then .error .bracketedIPv4
  else if isIPv6 inner then .ok ()
  else .error (.notNetworkAddress inner)

/-- A host must have no bracket without its partner, between brackets what belongs there, and no
character in disguise. -/
def check (host : Text) : Except Error Unit := do
  if host.elem '[' != host.elem ']' then throw .invalidHost
  if host.elem '[' then
    match inBrackets host with
    | none => throw .invalidHost
    | some inner => checkBracketed inner
  if host.any fun c => disguisedCodes.contains c.toNat then throw (.disguisedHost host)

end Host

end HtmlMarkdown
