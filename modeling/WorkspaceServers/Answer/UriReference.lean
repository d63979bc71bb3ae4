import WorkspaceServers.Text.Pieces

/-!
References to resources: a URI, or the part of one that is relative to another. The
grammar is decided part by part: fragment and query are cut off first, then a scheme,
then an authority, and what is left is the path.
-/

namespace WorkspaceServers.Answer

namespace UriReference

def isAlpha (c : Char) : Bool := ('a' ≤ c && c ≤ 'z') || ('A' ≤ c && c ≤ 'Z')

def isDigit (c : Char) : Bool := '0' ≤ c && c ≤ '9'

def isHex (c : Char) : Bool := isDigit c || ('a' ≤ c && c ≤ 'f') || ('A' ≤ c && c ≤ 'F')

def isUnreserved (c : Char) : Bool := isAlpha c || isDigit c || ['-', '.', '_', '~'].contains c

def isSubDelimiter (c : Char) : Bool :=
  ['!', '$', '&', '\'', '(', ')', '*', '+', ',', ';', '='].contains c

def isRegName (c : Char) : Bool := isUnreserved c || isSubDelimiter c

def isUserInfo (c : Char) : Bool := isRegName c || c = ':'

def isPath (c : Char) : Bool := isUserInfo c || c = '@' || c = '/'

def isQuery (c : Char) : Bool := isPath c || c = '?'

def wellEscaped (allowed : Char → Bool) : List Char → Bool
  | [] => true
  | '%' :: a :: b :: rest => isHex a && isHex b && wellEscaped allowed rest
  | c :: rest => c ≠ '%' && allowed c && wellEscaped allowed rest

def isScheme : List Char → Bool
  | [] => false
  | c :: rest => isAlpha c && rest.all fun c => isAlpha c || isDigit c || ['+', '-', '.'].contains c

/-- A number up to 255 without a needless zero in front. -/
def isOctet (text : List Char) : Bool :=
  0 < text.length && text.length ≤ 3 && text.all isDigit &&
    (text.length = 1 || text.head? ≠ some '0') &&
    text.foldl (fun total c => 10 * total + (c.toNat - '0'.toNat)) 0 ≤ 255

def isIpv4 (text : List Char) : Bool :=
  let octets := Text.pieces (· = '.') text
  octets.length = 4 && octets.all isOctet

def isGroup (text : List Char) : Bool := 0 < text.length && text.length ≤ 4 && text.all isHex

def groups (text : List Char) : List (List Char) :=
  if text.isEmpty then [] else Text.pieces (· = ':') text

/-- How many of the eight groups are written here; an IPv4 address may stand for the
last two. -/
def countGroups? (groups : List (List Char)) (mayEndInIpv4 : Bool) : Option Nat :=
  if groups.all isGroup then some groups.length
  else match groups.getLast? with
    | some last =>
      if mayEndInIpv4 && groups.dropLast.all isGroup && isIpv4 last then some (groups.length + 1)
      else none
    | none => some 0

/-- A double colon stands once for at least one group of zeros. -/
def isIpv6 (text : List Char) : Bool :=
  match Text.splitAtMark? [':', ':'] text with
  | none => countGroups? (groups text) true = some 8
  | some (before, after) =>
    match countGroups? (groups before) false, countGroups? (groups after) true with
    | some n, some m => n + m ≤ 7
    | _, _ => false

def isNumberSuffix : List Char → Bool
  | [] => true
  | c :: rest => c = ':' && rest.all isDigit

/-- A name or an IPv4 address, which is a name too; between brackets an IPv6 address. -/
def isHostAndNumber : List Char → Bool
  | '[' :: rest =>
    match Text.splitAtFirst? (· = ']') rest with
    | some (address, number) => isIpv6 address && isNumberSuffix number
    | none => false
  | text =>
    match Text.splitAtFirst? (· = ':') text with
    | some (name, number) => wellEscaped isRegName name && number.all isDigit
    | none => wellEscaped isRegName text

def isAuthority (text : List Char) : Bool :=
  match Text.splitAtFirst? (· = '@') text with
  | some (user, host) => wellEscaped isUserInfo user && isHostAndNumber host
  | none => isHostAndNumber text

def isHierarchy : List Char → Bool
  | '/' :: '/' :: rest =>
    match Text.splitAtFirst? (· = '/') rest with
    | some (authority, path) => isAuthority authority && wellEscaped isPath path
    | none => isAuthority rest
  | path => wellEscaped isPath path

/-- A colon in the first segment ends a scheme. -/
def isSchemeAndHierarchy (text : List Char) : Bool :=
  match Text.splitAtFirst? (fun c => c = ':' || c = '/') text with
  | some (scheme, rest) =>
    if text[scheme.length]? = some ':' then isScheme scheme && isHierarchy rest
    else isHierarchy text
  | none => isHierarchy text

def cutSuffix? (mark : Char) (text : List Char) : Option (List Char) :=
  match Text.splitAtFirst? (· = mark) text with
  | none => some text
  | some (before, after) => if wellEscaped isQuery after then some before else none

def isWellFormed (text : List Char) : Bool :=
  match (cutSuffix? '#' text).bind (cutSuffix? '?') with
  | some front => isSchemeAndHierarchy front
  | none => false

end UriReference

/-- A reference, kept as it was written. -/
structure UriReference where
  text : String
  wellFormed : UriReference.isWellFormed text.toList = true
deriving DecidableEq

def UriReference.ofString? (text : String) : Option UriReference :=
  if wellFormed : isWellFormed text.toList = true then some ⟨text, wellFormed⟩ else none

end WorkspaceServers.Answer
