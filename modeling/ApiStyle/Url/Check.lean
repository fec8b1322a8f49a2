import ApiStyle.Text.White
import ApiStyle.Url.Address
import ApiStyle.Url.Domain
import ApiStyle.Url.HostName

/-! Urls of servers. Of a url, the scheme, the host and the number of the service are looked at; credentials and
whatever follows the server may be anything. -/

namespace ApiStyle.Url

def schemes : List String := ["http", "https", "ftp"]

inductive Host where
  /-- a numeric address -/
  | address
  | domain (name : String)
deriving DecidableEq, Repr

def isSchemeChar (character : Char) : Bool :=
  Domain.isLetter character || Convention.isDigit character || character == '+' || character == '-'
    || character == '.'

/-- The scheme in small letters, and what follows the colon. -/
def scheme? (text : List Char) : Option (String × List Char) :=
  let scheme := text.takeWhile isSchemeChar
  match text.drop scheme.length with
  | ':' :: rest =>
    match scheme with
    | first :: _ => if Domain.isLetter first then some (Domain.lower (String.ofList scheme), rest) else none
    | [] => none
  | _ => none

def isSlash (character : Char) : Bool := character == '/' || character == '\\'

/-- The characters that end the part of a url that names the server. -/
def endsAuthority (character : Char) : Bool := isSlash character || character == '?' || character == '#'

/-- What follows the last at sign, if there is one. -/
def withoutCredentials (authority : List Char) : List Char :=
  (authority.reverse.takeWhile (· ≠ '@')).reverse

/-- The host and what follows it. A colon between brackets belongs to the host. -/
def splitHost : Bool → List Char → List Char × List Char
  | _, [] => ([], [])
  | bracketed, character :: rest =>
    if character = ':' ∧ !bracketed then ([], character :: rest)
    else
      let bracketed := if character = '[' then true else if character = ']' then false else bracketed
      let (host, after) := splitHost bracketed rest
      (character :: host, after)

/-- The largest number of a service. -/
def lastService : Nat := 65535

/-- The number of a service, which may be left out after the colon. -/
def isService (digits : List Char) : Bool :=
  match Address.number? 10 digits with
  | some number => number ≤ lastService
  | none => false

/-- A byte for each pair of hexadecimal digits after a percent sign. -/
def percentDecoded : List UInt8 → List UInt8
  | [] => []
  | 0x25 :: high :: low :: rest =>
    match Address.hexDigit? (Char.ofNat high.toNat), Address.hexDigit? (Char.ofNat low.toNat) with
    | some first, some second => (first * 16 + second).toUInt8 :: percentDecoded rest
    | _, _ => 0x25 :: percentDecoded (high :: low :: rest)
  | byte :: rest => byte :: percentDecoded rest

def decodedText? (text : List Char) : Option String :=
  String.fromUTF8? ⟨(percentDecoded (String.ofList text).toUTF8.toList).toArray⟩

/-- ASCII characters that cannot be part of a domain. -/
def isForbidden (character : Char) : Bool :=
  character.toNat ≤ 0x20 || character == '\x7f' || "#/:<>?@[\\]^|%".toList.contains character

def host? (text : List Char) : Option Host :=
  match text with
  | [] => none
  | '[' :: rest =>
    if rest.getLast? = some ']' ∧ Address.isEightGroups rest.dropLast then some .address else none
  | _ => do
    let decoded ← decodedText? text
    let name ← HostName.ascii? decoded.toList
    if name.isEmpty ∨ name.any isForbidden then none
    else if Address.endsInNumber name then
      if Address.isFourBytes name then some .address else none
    else some (.domain (String.ofList name))

/-- The host in the part of a url that names the server. -/
def authorityHost? (authority : List Char) : Option Host :=
  match splitHost false (withoutCredentials authority) with
  | (host, ':' :: service) => if isService service then host? host else none
  | (host, _) => host? host

def isTrimmed (character : Char) : Bool := character.toNat ≤ 0x20

/-- The text without control characters and spaces at its ends. -/
def trimmed (text : List Char) : List Char :=
  ((text.dropWhile isTrimmed).reverse.dropWhile isTrimmed).reverse

/-- The scheme of a url and its host. Any number of slashes may stand between them. -/
def parse? (text : String) : Option (String × Host) := do
  let (scheme, rest) ← scheme? (trimmed text.toList)
  if scheme ∈ schemes then
    return (scheme, ← authorityHost? ((rest.dropWhile isSlash).takeWhile (!endsAuthority ·)))
  else none

/-- Whether a server may have a url, if some domains are known besides the delegated ones. -/
def isValid (extra : List String) (candidate : String) : Bool :=
  if candidate.isEmpty || candidate.toList.any Text.isWhite then false
  else match parse? candidate with
    | none => false
    | some (_, .address) => true
    | some (_, .domain name) => Domain.accepts extra name

end ApiStyle.Url
