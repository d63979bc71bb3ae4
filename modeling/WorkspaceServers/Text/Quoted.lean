import WorkspaceServers.Text.Joining
import WorkspaceServers.Text.Unprintable

/-!
Text between double quotes for a message. What would not show, or would merge with the
character before it, is written by its number.
-/

namespace WorkspaceServers.Text

def escapeQuoted (c : Char) : List Char :=
  if c = '\x00' then ['\\', '0']
  else if c = '\t' then ['\\', 't']
  else if c = '\r' then ['\\', 'r']
  else if c = '\n' then ['\\', 'n']
  else if c = '\\' then ['\\', '\\']
  else if c = '"' then ['\\', '"']
  else if isJoining c || isUnprintable c then
    ['\\', 'u', '{'] ++ Nat.toDigits 16 c.toNat ++ ['}']
  else [c]

def quoted (text : List Char) : List Char := '"' :: text.flatMap escapeQuoted ++ ['"']

end WorkspaceServers.Text
