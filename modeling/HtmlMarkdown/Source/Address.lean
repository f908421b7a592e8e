import HtmlMarkdown.Source.Host

/-!
# Addresses of pages

* `Address`: scheme, host and path of a text read as an address; `Address.read`;
* `isPageAddress`: the text is the address of a page on the web.
-/

namespace HtmlMarkdown

/-- The parts of an address that tell where a page is. -/
structure Address where
  scheme : Text
  host : Text
  path : Text

/-- A control character or a space: an address begins behind those at the head of a text. -/
def isAddressMargin (c : Char) : Bool := c.toNat ≤ 0x20

/-- A character that addresses are read without, wherever it stands. -/
def isLayout (c : Char) : Bool := c == '\t' || c == '\r' || c == '\n'

/-- A character of a scheme after its first letter. -/
def isSchemeChar (c : Char) : Bool := c.isAlphanum || c == '+' || c == '-' || c == '.'

namespace Address

/-- The scheme at the head of a text, and what follows it. -/
def splitScheme (s : Text) : Text × Text :=
  match s.span isSchemeChar with
  | (c :: name, ':' :: rest) =>
    if c.isAlpha then ((c :: name).map Char.toLower, rest) else ([], s)
  | _ => ([], s)

/-- The host that two slashes announce, and what follows it. -/
def splitHost : Text → Text × Text
  | '/' :: '/' :: s => s.span fun c => !endsHost c
  | s => ([], s)

/-- A path without the parameters of its last part. -/
def dropParameters (path : Text) : Text :=
  let (last, before) := path.reverse.span (· != '/')
  before.reverse ++ last.reverse.takeWhile (· != ';')

/-- The address that a text is, if it may have the host that it has. -/
def read (text : Text) : Except Error Address := do
  let (scheme, rest) :=
    splitScheme ((text.dropWhile isAddressMargin).filter fun c => !isLayout c)
  let (host, rest) := splitHost rest
  Host.check host
  return {
    scheme
    host
    path := dropParameters ((rest.takeWhile (· != '#')).takeWhile (· != '?')) }

/-- The address is one of a page on the web. -/
def isPage (a : Address) : Bool :=
  (a.scheme == "http".toList || a.scheme == "https".toList) && !a.host.isEmpty

end Address

/-- The text is the address of a page on the web. -/
def isPageAddress (text : Text) : Except Error Bool := (Address.read text).map Address.isPage

end HtmlMarkdown
