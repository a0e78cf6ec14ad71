import Externalize.HostName.Label
import Externalize.Text.LetterCase

/-!
# `Externalize.Service.Host`: the hosts of addresses

A host is a name of labels with dots between them, or a numeric address in brackets, with a user
before it and a socket number behind it if need be. A host is checked in two steps: its brackets and
its characters when an address is taken apart, and its labels and its socket number when it is used.
The host that a request names is checked in a third way: one with characters that no host has counts
as none.
-/

set_option autoImplicit false

namespace Externalize.Service

/-- Why a host makes no sense. -/
inductive HostFault
  /-- One bracket without the other. -/
  | unpairedBracket
  /-- The address of a later version in the brackets is none. -/
  | badFutureAddress
  /-- What stands in the brackets is no numeric address. -/
  | notNumeric (text : Text)
  /-- What stands in the brackets is a numeric address of four octets. -/
  | bracketedOctets
  /-- A character stands for one that may not stand in a host. -/
  | confusable (host : Text)
  /-- The name cannot be spelled in ASCII. -/
  | unspellable (fault : HostName.LabelFault)
  /-- The name is no spelling in ASCII. -/
  | misspelled (fault : HostName.LabelFault)
  | badSocket (text : Text)
  | socketTooBig
  /-- The socket number has more digits than are ever read. -/
  | socketTooLong (digits : Nat)
  deriving Repr, DecidableEq

/-- The text that is told of a fault. -/
def HostFault.message : HostFault → String
  | .unpairedBracket => "Invalid IPv6 URL"
  | .badFutureAddress => "IPvFuture address is invalid"
  | .notNumeric text =>
    s!"{String.ofList text.quote} does not appear to be an IPv4 or IPv6 address"
  | .bracketedOctets => "An IPv4 address cannot be in brackets"
  | .confusable host =>
    s!"netloc '{String.ofList host}' contains invalid characters under NFKC normalization"
  | .unspellable fault => s!"encoding with 'idna' codec failed (UnicodeError: {fault.message})"
  | .misspelled (.respelled label other) => (HostName.LabelFault.respelled label other).message
  | .misspelled fault => s!"decoding with 'idna' codec failed (UnicodeError: {fault.message})"
  | .badSocket text => s!"Port could not be cast to integer value as {String.ofList text.quote}"
  | .socketTooBig => "Port out of range 0-65535"
  | .socketTooLong digits =>
    s!"Exceeds the limit ({Text.maxDigits} digits) for integer string conversion: value has " ++
      s!"{digits} digits; use sys.set_int_max_str_digits() to increase the limit"

/-- The text before the first `mark`, and the text behind it. -/
def cutAt (mark : Char) (text : Text) : Text × Text :=
  let before := text.takeWhile (· != mark)
  (before, (text.drop before.length).drop 1)

/-- The text before the last `mark`, and the text behind it; all of it is behind if there is none. -/
def cutAtLast (mark : Char) (text : Text) : Text × Text :=
  let after := (text.reverse.takeWhile (· != mark)).reverse
  (text.take (text.length - after.length - 1), after)

/-! ### Numeric addresses -/

/-- The number that decimal digits spell. -/
def decimalOf (digits : Text) : Nat :=
  digits.foldl (fun n c => 10 * n + (c.toNat - '0'.toNat)) 0

/-- Whether a text is an octet of a numeric address: a number without superfluous zeros. -/
def isOctet (text : Text) : Bool :=
  !text.isEmpty && text.length ≤ 3 && text.all Char.isDigit &&
    (text == ['0'] || text.head? != some '0') && decimalOf text ≤ 255

/-- Whether a text is a numeric address: four times `isOctet`. -/
def isOctetAddress (text : Text) : Bool :=
  let octets := text.splitOn '.'
  octets.length == 4 && octets.all isOctet

/-- Whether a text is a group of a numeric address: up to four hexadecimal digits. -/
def isGroup (text : Text) : Bool :=
  !text.isEmpty && text.length ≤ 4 && text.all fun c => (hexValue? c).isSome

/-- The groups of a text, in which four octets at the end count as two groups. -/
def groupsOf? (text : Text) : Option (List Text) :=
  let groups := text.splitOn ':'
  match groups.getLast? with
  | none => none
  | some last =>
    if groups.length < 3 then none
    else if !last.contains '.' then some groups
    else if isOctetAddress last then some (groups.dropLast ++ [['0'], ['0']])
    else none

/-- How many groups stand at one side of a gap, if they are groups; one empty text is none. -/
def sideCount? (groups : List Text) : Option Nat :=
  if groups == [[]] then some 0
  else if groups.all isGroup then some groups.length
  else none

/-- Whether eight groups make up the address, or fewer with one gap. -/
def areGroups (groups : List Text) : Bool :=
  let inner := (groups.drop 1).dropLast
  let before := inner.takeWhile (!·.isEmpty)
  if before.length == inner.length then groups.length == 8 && groups.all isGroup
  else
    let after := inner.drop (before.length + 1)
    match sideCount? (groups.take (before.length + 1)), sideCount? (groups.drop (before.length + 2)) with
    | some high, some low =>
      groups.length ≤ 9 && after.all (!·.isEmpty) && high + low ≤ 7
    | _, _ => false

/-- Whether a text is a numeric address of groups, which may have a zone behind a percent sign. -/
def isGroupAddress (text : Text) : Bool :=
  let (address, zone) := cutAt '%' text
  let zoned := text.contains '%'
  (!zoned || (!zone.isEmpty && !zone.contains '%')) &&
    match groupsOf? address with
    | some groups => areGroups groups
    | none => false

/-- Whether a text is an address of a later version. -/
def isFutureAddress : Text → Bool
  | 'v' :: rest =>
    let version := rest.takeWhile fun c => (hexValue? c).isSome
    match rest.drop version.length with
    | '.' :: _ :: _ => !version.isEmpty
    | _ => false
  | _ => false

/-- Checks what stands in the brackets of a host: an `isFutureAddress` or an `isGroupAddress`. -/
def checkBracketed (text : Text) : Except HostFault Unit :=
  if text.head? = some 'v' then
    if isFutureAddress text then .ok () else .error .badFutureAddress
  else if isOctetAddress text then .error .bracketedOctets
  else if isGroupAddress text then .ok ()
  else .error (.notNumeric text)

/-- Checks the brackets of a host. Behind its user nothing stands before them, and behind them only a
socket number. What is in the brackets of the user is not looked at, but then the host has to be a
numeric address all the same. -/
def checkBrackets (host : Text) : Except HostFault Unit :=
  match host.contains '[', host.contains ']' with
  | false, false => .ok ()
  | true, true =>
    match (cutAtLast '@' host).2 with
    | '[' :: rest =>
      let (name, after) := cutAt ']' rest
      if after.isEmpty || after.head? = some ':' then checkBracketed name
      else .error .unpairedBracket
    | place =>
      if place.contains '[' then .error .unpairedBracket else checkBracketed (cutAt ':' place).1
  | _, _ => .error .unpairedBracket

/-! ### Characters -/

/-- The characters that stand for a slash, a question mark, a number sign, an at sign or a colon, alone
or together with others. -/
def confusables : List Nat :=
  [0x2047, 0x2048, 0x2049, 0x2100, 0x2101, 0x2105, 0x2106, 0x2A74, 0xFE13, 0xFE16, 0xFE55, 0xFE56,
    0xFE5F, 0xFE6B, 0xFF03, 0xFF0F, 0xFF1A, 0xFF1F, 0xFF20]

/-- Refuses a host with one of the `confusables`. -/
def checkCharacters (host : Text) : Except HostFault Unit :=
  if host.any fun c => confusables.contains c.toNat then .error (.confusable host) else .ok ()

/-! ### Parts of a host -/

/-- The name and the socket number of a host without its user. -/
def nameAndSocket (host : Text) : Text × Text :=
  if host.contains '[' then
    let (name, rest) := cutAt ']' (cutAt '[' host).2
    (name, (cutAt ':' rest).2)
  else cutAt ':' host

/-- The name in lower case, but not its zone. -/
def lowerName (name : Text) : Text :=
  let address := name.takeWhile (· != '%')
  Text.lower address ++ name.drop address.length

/-- The socket number that a text spells, if one is given. -/
def socketOf (text : Text) : Except HostFault (Option Nat) :=
  if text.isEmpty then .ok none
  else if !text.all Char.isDigit then .error (.badSocket text)
  else if Text.maxDigits < text.length then .error (.socketTooLong text.length)
  else if decimalOf text ≤ 65535 then .ok (some (decimalOf text))
  else .error .socketTooBig

/-- `HostName.toAscii` of a name. -/
def spelledName (name : Text) : Except HostFault Text :=
  match HostName.toAscii name with
  | .ok spelled => .ok spelled
  | .error fault => .error (.unspellable fault)

/-- The host of a `name` and a `socket` number. -/
def hostOf (name : Text) (socket : Option Nat) : Text :=
  let shown := if name.contains ':' then ['['] ++ name ++ [']'] else name
  match socket with
  | none => shown
  | some number => shown ++ ':' :: Nat.toDigits 10 number

/-- The host as it is used: `spelledName` of the name in lower case. -/
def usedHost (host : Text) : Except HostFault Text := do
  let (user, place) := cutAtLast '@' host
  let (name, socket) := nameAndSocket place
  let name ← spelledName (lowerName name)
  let socket ← socketOf socket
  return (if host.contains '@' then user ++ ['@'] else []) ++ hostOf name socket

/-! ### Hosts of requests -/

/-- Whether a text is a socket number: from 1 to 65535, without superfluous zeros. -/
def isSocket (text : Text) : Bool :=
  !text.isEmpty && text.length ≤ 5 && text.all Char.isDigit && text.head? != some '0' &&
    decimalOf text ≤ 65535

/-- Whether all characters of a name may stand in one: those of a name of labels, or those of a
numeric address of groups in brackets. -/
def hasNameCharacters : Text → Bool
  | '[' :: rest =>
    let isHex (c : Char) : Bool := (hexValue? c).isSome
    match rest.dropWhile isHex with
    | ':' :: more =>
      1 < more.length && more.getLast? = some ']' &&
        more.dropLast.all fun c => isHex c || c == '.' || c == ':'
    | _ => false
  | name => !name.isEmpty && name.all fun c => c.isAlphanum || c == '.' || c == '-'

/-- Whether a text looks like a host: `hasNameCharacters`, and maybe `isSocket` behind a colon. -/
def looksLikeHost (text : Text) : Bool :=
  let name := if text.head? = some '[' then text.takeWhile (· != ']') ++ [']']
    else text.takeWhile (· != ':')
  hasNameCharacters name && name.isPrefixOf text &&
    match text.drop name.length with
    | [] => true
    | ':' :: socket => isSocket socket
    | _ => false

/-- The `text` without the `ending`, if it has it. -/
def withoutEnding (ending text : Text) : Text :=
  if ending.isSuffixOf text then text.take (text.length - ending.length) else text

/-- The host that a request with that scheme names, without the socket number that goes without
saying. What does not look like a host counts as none. -/
def namedHost (scheme text : Text) : Text :=
  let usual := if scheme == "https".toList || scheme == "wss".toList then ":443" else ":80"
  let known := ["http", "ws", "https", "wss"].any fun known => known.toList == scheme
  let host := if known then withoutEnding usual.toList text else text
  if looksLikeHost host then host else []

/-- Checks a host that looks like one: its brackets, and `HostName.ofAscii` of its name. -/
def checkNamedHost (host : Text) : Except HostFault Unit := do
  checkBrackets host
  let (name, socket) := nameAndSocket host
  match HostName.ofAscii (lowerName name) with
  | .error fault => .error (.misspelled fault)
  | .ok name => checkCharacters (hostOf name (← socketOf socket))

end Externalize.Service
