import CollectionTypes.Source.Address
import CollectionTypes.Text.Quoted

/-!
# Web addresses

Of a web address the scheme and the authority matter: whether both are
there. `Url.ofString` takes them off the front of a text. The blanks and
controls at the front and the tabs and line ends anywhere say nothing.
Brackets in the authority have to enclose the address of a host, and no
character of it may hide one of those that end an authority.
-/

namespace CollectionTypes

/-- **The scheme and the authority of a web address**; empty if there is
none. -/
structure Url where
  scheme : List Char
  authority : List Char
  deriving DecidableEq, Repr

/-- **Why a text is no web address.** -/
inductive UrlError where
  /-- Brackets out of place. -/
  | badBrackets
  /-- An address of a version to come, ill-formed. -/
  | badFutureAddress
  /-- An address of four numbers in brackets. -/
  | bracketedVersion4
  /-- No address in the brackets. -/
  | noAddress (host : String)
  /-- A character that hides another. -/
  | hiddenDelimiter (authority : String)
  deriving DecidableEq, Repr

/-- The wording of the error. -/
def UrlError.message : UrlError → String
  | badBrackets => "Invalid IPv6 URL"
  | badFutureAddress => "IPvFuture address is invalid"
  | bracketedVersion4 => "An IPv4 address cannot be in brackets"
  | noAddress host =>
    Text.quoted host ++ " does not appear to be an IPv4 or IPv6 address"
  | hiddenDelimiter authority =>
    "netloc '" ++ authority ++ "' contains invalid characters under NFKC normalization"

namespace Url

open Text

/-- The text without what says nothing in it. -/
def cleaned (cs : List Char) : List Char :=
  (cs.dropWhile fun c => c.toNat ≤ 0x20).filter fun c =>
    c != '\t' && c != '\r' && c != '\n'

/-- Whether a character can be part of a scheme. -/
def isSchemeChar (c : Char) : Bool :=
  c.isAlphanum || c == '+' || c == '-' || c == '.'

/-- The scheme and what is behind it; an ill-formed one is none. -/
def takeScheme (cs : List Char) : List Char × List Char :=
  let front := before ':' cs
  if cs.contains ':' && (front.head?.map Char.isAlpha).getD false
      && front.all isSchemeChar then
    (front.map Char.toLower, behind ':' cs)
  else ([], cs)

/-- The authority, if two slashes begin it. -/
def takeAuthority : List Char → List Char
  | '/' :: '/' :: rest => rest.takeWhile fun c => c != '/' && c != '?' && c != '#'
  | _ => []

/-- Whether an address of a version to come is well-formed: a version in
base sixteen, a full stop, and something behind it. -/
def isFutureAddress (host : List Char) : Bool :=
  let version := before '.' (host.drop 1)
  !version.isEmpty && version.all Address.isHexDigit && !(behind '.' host).isEmpty

/-- What stands between brackets has to be the address of a host. -/
def checkHost (host : List Char) : Except UrlError Unit :=
  if host.head? = some 'v' then
    if isFutureAddress host then .ok () else .error .badFutureAddress
  else if Address.isVersion4 host then .error .bracketedVersion4
  else if Address.isVersion6 host then .ok ()
  else .error (.noAddress (String.ofList host))

/-- Brackets have to enclose the host, with nothing before them, and behind
them nothing or a colon. -/
def checkBrackets (authority : List Char) : Except UrlError Unit :=
  if authority.contains '[' != authority.contains ']' then .error .badBrackets
  else if authority.contains '[' then
    let host := behindLast '@' authority
    if host.contains '[' then
      let inside := behind '[' host
      let rest := behind ']' inside
      if !(before '[' host).isEmpty then .error .badBrackets
      else if !rest.isEmpty && rest.head? != some ':' then .error .badBrackets
      else checkHost (before ']' inside)
    else checkHost (before ':' host)
  else .ok ()

/-- The characters that stand for one of `/ ? # @ :`, or for more with one
of them among it. -/
def hidingChars : List Nat :=
  [0x2047, 0x2048, 0x2049, 0x2100, 0x2101, 0x2105, 0x2106, 0x2A74, 0xFE13, 0xFE16,
    0xFE55, 0xFE56, 0xFE5F, 0xFE6B, 0xFF03, 0xFF0F, 0xFF1A, 0xFF1F, 0xFF20]

/-- No character may hide a delimiter. -/
def checkHidden (authority : List Char) : Except UrlError Unit :=
  if authority.any fun c => hidingChars.contains c.toNat then
    .error (.hiddenDelimiter (String.ofList authority))
  else .ok ()

/-- **The web address that a text writes.** -/
def ofString (s : String) : Except UrlError Url := do
  let (scheme, rest) := takeScheme (cleaned s.toList)
  let authority := takeAuthority rest
  checkBrackets authority
  checkHidden authority
  return ⟨scheme, authority⟩

/-- Whether both parts are there. -/
def isComplete (u : Url) : Bool :=
  !u.scheme.isEmpty && !u.authority.isEmpty

end Url

end CollectionTypes
