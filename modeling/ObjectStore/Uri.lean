import ObjectStore.Fault
import ObjectStore.Text.Case
import ObjectStore.Text.Percent
import ObjectStore.Text.Split

/-!
Addresses taken apart into scheme, host and path. Parameters of the last segment, query and
fragment are dropped, and hosts that could be mistaken for something else are refused.
-/

namespace ObjectStore

structure Uri where
  scheme : String
  host : String
  path : String

namespace Uri

/-- Schemes whose last path segment may carry parameters. -/
def schemesWithParameters : List String :=
  ["", "ftp", "hdl", "prospero", "http", "imap", "https", "shttp", "rtsp", "rtsps", "rtspu", "sip",
   "sips", "mms", "sftp", "tel"]

def isAsciiLetter (c : Char) : Bool :=
  c.isAlpha

def isSchemeChar (c : Char) : Bool :=
  c.isAlphanum || c == '+' || c == '-' || c == '.'

/-- The scheme and what follows its colon. A scheme starts with a letter. -/
def splitScheme (cs : List Char) : List Char × List Char :=
  let (before, after) := Text.cut ':' cs
  match before, after with
  | first :: _, some rest =>
    if isAsciiLetter first && before.all isSchemeChar then (before, rest) else ([], cs)
  | _, _ => ([], cs)

/-- The host that two slashes announce, and the rest. -/
def splitHost : List Char → List Char × List Char
  | '/' :: '/' :: rest =>
    let inHost := fun c => c != '/' && c != '?' && c != '#'
    (rest.takeWhile inHost, rest.dropWhile inHost)
  | cs => ([], cs)

def dropParameters (cs : List Char) : List Char :=
  let last := (cs.reverse.takeWhile (· != '/')).reverse
  cs.take (cs.length - last.length) ++ last.takeWhile (· != ';')

def isOctet (cs : List Char) : Bool :=
  !cs.isEmpty && cs.all Char.isDigit && cs.length ≤ 3 && (cs == ['0'] || cs.head? != some '0') &&
    cs.foldl (fun n c => 10 * n + (c.toNat - 48)) 0 ≤ 255

def isDottedAddress (cs : List Char) : Bool :=
  let octets := Text.pieces '.' cs
  octets.length == 4 && octets.all isOctet

def isGroup (cs : List Char) : Bool :=
  !cs.isEmpty && cs.length ≤ 4 && cs.all fun c => (Text.hexValue? c).isSome

/-- The groups of an address of which the last may be dotted and then stands for two. -/
def groups? (cs : List Char) : Option (List (List Char)) :=
  let parts := Text.pieces ':' cs
  let last := parts.getLastD []
  if parts.length < 3 then none
  else if last.contains '.' then
    if isDottedAddress last then some (parts.dropLast ++ [['0'], ['0']]) else none
  else some parts

/-- Eight groups, or fewer around a single gap. -/
def isColonAddress (cs : List Char) : Bool :=
  let (address, zone) := Text.cut '%' cs
  let zoneFits := match zone with
    | some zone => !zone.isEmpty && !zone.contains '%'
    | none => true
  match groups? address with
  | none => false
  | some parts =>
    let inner := (parts.drop 1).dropLast
    let written := parts.filter (!·.isEmpty)
    let gaps := (inner.filter List.isEmpty).length
    let startsFit := parts.head? != some [] || inner.head? == some []
    let endFits := parts.getLast? != some [] || inner.getLast? == some []
    !cs.contains '/' && zoneFits && parts.length ≤ 9 && written.all isGroup &&
      (if gaps == 1 then startsFit && endFits && written.length ≤ 7
        else gaps == 0 && parts.length == 8 && written.length == 8)

/-- An address of a later version: `v`, a number in base sixteen, a dot and anything. -/
def isFutureAddress (cs : List Char) : Bool :=
  match Text.cut '.' cs with
  | (_ :: version, some (first :: rest)) =>
    !version.isEmpty && version.all (fun c => (Text.hexValue? c).isSome) &&
      !(first :: rest).contains '\n'
  | _ => false

/-- Characters that turn into separators when a host is normalised. -/
def deceptive : List Nat :=
  [0x2047, 0x2048, 0x2049, 0x2100, 0x2101, 0x2105, 0x2106, 0x2A74, 0xFE13, 0xFE16, 0xFE55, 0xFE56,
   0xFE5F, 0xFE6B, 0xFF03, 0xFF0F, 0xFF1A, 0xFF1F, 0xFF20]

/-- What is wrong with the address of a host that has brackets somewhere. -/
def addressFlaw? (address : List Char) : Option String :=
  if address.head? == some 'v' then
    if isFutureAddress address then none else some "IPvFuture address is invalid"
  else if isDottedAddress address then some "An IPv4 address cannot be in brackets"
  else if isColonAddress address then none
  else some (Text.quote (String.ofList address) ++ " does not appear to be an IPv4 or IPv6 address")

/-- What is wrong with a host in brackets: nothing may stand before it but a user, and nothing after
it but a port. -/
def bracketFlaw? (host : List Char) : Option String :=
  let place := (host.reverse.takeWhile (· != '@')).reverse
  match Text.cut '[' place with
  | (_, none) => addressFlaw? (Text.cut ':' place).1
  | (before, some inside) =>
    let (address, after) := Text.cut ']' inside
    let port := after.getD []
    if !before.isEmpty || (!port.isEmpty && port.head? != some ':') then some "Invalid IPv6 URL"
    else addressFlaw? address

def hostFlaw? (host : List Char) : Option String :=
  let flaw :=
    if host.contains '[' != host.contains ']' then some "Invalid IPv6 URL"
    else if host.contains '[' then bracketFlaw? host
    else none
  flaw.orElse fun _ =>
    if host.any fun c => deceptive.contains c.toNat then
      some ("netloc '" ++ String.ofList host ++
        "' contains invalid characters under NFKC normalization")
    else none

/-- Control characters and spaces in front do not count, nor do tabs and line ends anywhere. -/
def cleaned (s : String) : List Char :=
  (s.toList.dropWhile fun c => c.toNat ≤ 0x20).filter fun c => c != '\t' && c != '\r' && c != '\n'

def parse (s : String) : Except Fault Uri :=
  let (scheme, rest) := splitScheme (cleaned s)
  let (host, rest) := splitHost rest
  match hostFlaw? host with
  | some flaw => .error (.misfit .value flaw)
  | none =>
    let scheme := Text.lowerCase (String.ofList scheme)
    let path := rest.takeWhile fun c => c != '#' && c != '?'
    let path := if schemesWithParameters.contains scheme then dropParameters path else path
    .ok ⟨scheme, String.ofList host, String.ofList path⟩

end Uri

end ObjectStore
