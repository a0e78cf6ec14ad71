import Externalize.Service.Host
import Externalize.Text.Utf8

/-!
# `Externalize.Service.Address`: addresses

An address has a scheme, a host, a path and a query, all but the path only if need be. `Address.split`
takes an address apart. In paths and queries a percent sign with two hexadecimal digits stands for an
octet.
-/

set_option autoImplicit false

namespace Externalize.Service

/-- The parts of an address; those that it does not have are empty. -/
structure Address where
  scheme : Text
  host : Text
  path : Text
  query : Text
  deriving Repr, DecidableEq

namespace Address

/-- Whether a character may stand in a scheme. -/
def isSchemeChar (c : Char) : Bool :=
  c.isAlphanum || c == '+' || c == '-' || c == '.'

/-- The address without what is ignored: controls and spaces at its head, tabulators and line breaks
everywhere. -/
def tidy (text : Text) : Text :=
  (text.dropWhile fun c => c.toNat ≤ 0x20).filter fun c => c != '\t' && c != '\n' && c != '\r'

/-- The scheme of `text` in lower case, and the rest. There is one if all before the first colon is
`isSchemeChar`, with a letter in front. -/
def splitScheme (text : Text) : Text × Text :=
  let (scheme, rest) := cutAt ':' text
  match scheme with
  | first :: _ =>
    if first.isAlpha && scheme.all isSchemeChar && scheme.length < text.length then
      (Text.lower scheme, rest)
    else ([], text)
  | [] => ([], text)

/-- The host, and the rest of the address. -/
def splitHost : Text → Text × Text
  | '/' :: '/' :: rest => rest.span fun c => c != '/' && c != '?' && c != '#'
  | text => ([], text)

/-- Takes an address apart: `splitScheme` and `splitHost` of what `tidy` leaves, with the checks of the
host. -/
def split (text : Text) : Except HostFault Address := do
  let (scheme, rest) := splitScheme (tidy text)
  let (host, rest) := splitHost rest
  checkBrackets host
  checkCharacters host
  let (path, query) := cutAt '?' (cutAt '#' rest).1
  return { scheme, host, path, query }

/-- Puts `scheme`, `host` and `path` of an address together again. -/
def placeText (scheme host path : Text) : Text :=
  let scheme := if scheme.isEmpty then [] else scheme ++ [':']
  let slash := if path.isEmpty || path.head? = some '/' then [] else ['/']
  let place := if host.isEmpty then path else ['/', '/'] ++ host ++ slash ++ path
  scheme ++ place

end Address

/-! ### Octets in addresses -/

/-- The octets of a text in which a percent sign with two hexadecimal digits stands for an octet. -/
def unescapedOctets : Text → Octets
  | [] => []
  | '%' :: a :: b :: rest =>
    match hexValue? a, hexValue? b with
    | some high, some low => UInt8.ofNat (16 * high + low) :: unescapedOctets rest
    | _, _ => UInt8.ofNat '%'.toNat :: unescapedOctets (a :: b :: rest)
  | c :: rest => String.utf8EncodeChar c ++ unescapedOctets rest

/-- The text that `unescapedOctets` of a path spell. A bad sequence of octets becomes
`Point.replacement`. -/
def unescapePath (text : Text) : Text :=
  Utf8.decodeWith (fun _ => [Point.replacement]) (unescapedOctets text)

/-- The `octet` as two hexadecimal digits behind a percent sign. -/
def escapeOctet (octet : UInt8) : Text :=
  '%' :: (hexDigits 2 octet.toNat).map Char.toUpper

/-- The text that `unescapedOctets` of a part of a query spell, in which a plus sign is a space. A bad
sequence stays as `escapeOctet` writes it. -/
def unescapeQuery (text : Text) : Text :=
  let spaced := text.map fun c => if c = '+' then ' ' else c
  Utf8.decodeWith (fun octets => octets.flatMap escapeOctet) (unescapedOctets spaced)

/-- The pairs of a name and a value in a query, in order, each by `unescapeQuery`. -/
def queryPairs (query : Text) : List (Text × Text) :=
  let pairs := (query.splitOn '&').filter fun pair => !pair.isEmpty
  pairs.map fun pair =>
    let (name, value) := cutAt '=' pair
    (unescapeQuery name, unescapeQuery value)

end Externalize.Service
