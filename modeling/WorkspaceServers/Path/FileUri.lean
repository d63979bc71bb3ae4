import WorkspaceServers.Path.Basic

/-!
File URIs of absolute paths. Every component stands behind its slash with the bytes
that a URI cannot carry written as a percent sign and two digits, the percent sign
among them, so no two lists of components share a URI.
-/

namespace WorkspaceServers.Path

/-- Bytes outside printable ASCII and the marks that would end or split a component. -/
def isReserved (byte : UInt8) : Bool :=
  byte ≤ 0x20 || 0x7F ≤ byte ||
    (['"', '<', '>', '`', '#', '?', '{', '}', '/', '%', '\\'].map fun c =>
      UInt8.ofNat c.toNat).contains byte

def upperHexDigit (n : Nat) : Char := (Nat.digitChar n).toUpper

def percentEncode (part : Bytes) : List Char :=
  part.flatMap fun byte =>
    if isReserved byte then
      ['%', upperHexDigit (byte.toNat / 16), upperHexDigit (byte.toNat % 16)]
    else [Char.ofNat byte.toNat]

def encodeComponents : List Bytes → List Char
  | [] => ['/']
  | parts => parts.flatMap fun part => '/' :: percentEncode part

def fileUri? (path : Path) : Option String :=
  if isAbsolute path then
    some (String.ofList ("file://".toList ++ encodeComponents (components path)))
  else none

end WorkspaceServers.Path
