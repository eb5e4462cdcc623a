import DomainGen.Fault
import DomainGen.Text.Lines

/-!
# Addresses

The scheme and the host part of a URL, as far as they decide whether a model is fetched from it.

* `Address.ofString` : the two parts; both may be empty;
* `isIPv6` : the numeric addresses that may stand in brackets.

**Some texts have no parts at all**: those whose host part has a single bracket, has brackets around
anything but an address of version 6 or later, or has a character that stands for one of the
separators.
-/

namespace DomainGen

open Text

/-! ## 1. Numeric addresses -/

/-- Is it a digit of base sixteen? -/
def isHexDigit (c : Char) : Bool :=
  c.isDigit || ('a' ≤ c && c ≤ 'f') || ('A' ≤ c && c ≤ 'F')

/-- Is it one of the four numbers of an address of version 4? No leading zeros. -/
def isOctet (s : List Char) : Bool :=
  !s.isEmpty && s.all Char.isDigit && s.length ≤ 3 && (s == ['0'] || s.head? != some '0')
    && s.foldl (fun n c => 10 * n + (c.toNat - '0'.toNat)) 0 ≤ 255

/-- Is it an address of version 4? -/
def isIPv4 (s : List Char) : Bool :=
  let octets := splitAt '.' s
  octets.length == 4 && octets.all isOctet

/-- Is it one of the eight numbers of an address of version 6? -/
def isHextet (s : List Char) : Bool :=
  !s.isEmpty && s.length ≤ 4 && s.all isHexDigit

/-- The pieces between colons, with an address of version 4 at the end counted as two numbers. -/
def hextets? (s : List Char) : Option (List (List Char)) :=
  let pieces := splitAt ':' s
  let last := pieces.getLast?.getD []
  if last.contains '.' then
    if isIPv4 last then some (pieces.dropLast ++ [['0'], ['0']]) else none
  else some pieces

/-- Are they numbers, apart from an empty piece at the outer end? -/
def areHextets (atStart : Bool) (pieces : List (List Char)) : Bool :=
  match pieces with
  | [[]] => true
  | _ =>
    (if atStart then pieces.head? != some [] else pieces.getLast? != some [])
      && pieces.all isHextet

/-- How many numbers some pieces hold; an empty piece holds none. -/
def countHextets (pieces : List (List Char)) : Nat :=
  (pieces.filter (!·.isEmpty)).length

/-- Are the pieces an address? Two colons in a row may stand once for all zeros that are missing. -/
def isAddressOf (pieces : List (List Char)) : Bool :=
  let inner := pieces.tail.dropLast
  if pieces.length < 3 || 9 < pieces.length then false
  else match inner.findIdx? List.isEmpty with
    | none => pieces.length == 8 && pieces.all isHextet
    | some i =>
      let before := pieces.take (i + 1)
      let after := pieces.drop (i + 2)
      (inner.filter List.isEmpty).length == 1
        && areHextets true before && areHextets false after
        && countHextets before + countHextets after < 8

/-- Is it an address of version 6? A zone may follow after a percent sign. -/
def isIPv6 (s : List Char) : Bool :=
  if s.contains '/' then false
  else match splitAt '%' s with
    | [address] => ((hextets? address).map isAddressOf).getD false
    | [address, zone] => !zone.isEmpty && ((hextets? address).map isAddressOf).getD false
    | _ => false

/-- Is it an address of a later version? -/
def isLaterAddress (s : List Char) : Bool :=
  match s with
  | 'v' :: rest =>
    let version := rest.takeWhile isHexDigit
    match rest.drop version.length with
    | '.' :: c :: _ => !version.isEmpty && c != '\n'
    | _ => false
  | _ => false

/-! ## 2. Parts -/

/-- The parts of a URL that decide whether it is fetched. -/
structure Address where
  /-- How to fetch. -/
  scheme : List Char
  /-- From where. -/
  host : List Char
  deriving DecidableEq, Repr, Inhabited

/-- Characters that stand for a text with a separator in it, by their code points. -/
def separatorLookalikes : List Nat :=
  [0x2047, 0x2048, 0x2049, 0x2100, 0x2101, 0x2105, 0x2106, 0x2a74, 0xfe13, 0xfe16, 0xfe55, 0xfe56,
   0xfe5f, 0xfe6b, 0xff03, 0xff0f, 0xff1a, 0xff1f, 0xff20]

/-- May the character stand in a scheme? -/
def isSchemeChar (c : Char) : Bool :=
  c.isAlphanum || c == '+' || c == '-' || c == '.'

/-- The text of a URL without leading blanks and control characters, tabs and line ends. -/
def cleanUrl (url : String) : List Char :=
  (url.toList.dropWhile (·.toNat ≤ 32)).filter fun c => c != '\t' && c != '\r' && c != '\n'

/-- The scheme and what follows it. -/
def splitScheme (s : List Char) : List Char × List Char :=
  let scheme := s.takeWhile (· != ':')
  match s.drop scheme.length with
  | ':' :: rest =>
    if (scheme.head?.map Char.isAlpha).getD false && scheme.all isSchemeChar then (scheme, rest)
    else ([], s)
  | _ => ([], s)

/-- The host part at the start of what follows a scheme. -/
def hostPart (s : List Char) : List Char :=
  match s with
  | '/' :: '/' :: rest => rest.takeWhile fun c => c != '/' && c != '?' && c != '#'
  | _ => []

/-- Is it a numeric address that may stand in brackets? -/
def isBracketed (s : List Char) : Bool :=
  if s.head? == some 'v' then isLaterAddress s else isIPv6 s

/-- The text after the last occurrence of a character, or all of it without one. -/
def afterLast (c : Char) (s : List Char) : List Char :=
  (s.reverse.takeWhile (· != c)).reverse

/-- Is the host behind a name of a user fit for a host part with brackets? Brackets stand around all
    of it but a number behind a colon; without brackets of its own it must be an address that could
    stand in them. -/
def isFitHost (host : List Char) : Bool :=
  let before := host.takeWhile (· != '[')
  match host.drop before.length with
  | _ :: bracketed =>
    let inside := bracketed.takeWhile (· != ']')
    let behind := (bracketed.drop inside.length).drop 1
    before.isEmpty && (behind.isEmpty || behind.head? == some ':') && isBracketed inside
  | [] => isBracketed (host.takeWhile (· != ':'))

/-- Are brackets in a host part around an address that belongs there? -/
def bracketsFit (host : List Char) : Bool :=
  match host.contains '[', host.contains ']' with
  | false, false => true
  | true, true => isFitHost (afterLast '@' host)
  | _, _ => false

/-- The scheme and the host part of a URL. -/
def Address.ofString (url : String) : Except Fault Address :=
  let (scheme, rest) := splitScheme (cleanUrl url)
  let host := hostPart rest
  if !bracketsFit host then .error .badValue
  else if host.any fun c => separatorLookalikes.contains c.toNat then .error .badValue
  else .ok ⟨scheme, host⟩

/-- Can something be fetched from there? It takes both parts. -/
def Address.isComplete (a : Address) : Bool :=
  !a.scheme.isEmpty && !a.host.isEmpty

end DomainGen
