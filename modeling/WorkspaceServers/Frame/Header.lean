import WorkspaceServers.Number.Decimal
import WorkspaceServers.Text.Blank
import WorkspaceServers.Text.Pieces
import WorkspaceServers.Text.Quoted
import WorkspaceServers.Text.Utf8.Basic

/-!
Header lines of a frame. Only the length of the body matters; its header is known by
its name in any case, and every other line, with or without a colon, is passed over.
-/

namespace WorkspaceServers.Frame

def maxLength : Nat := 16 * 1024 * 1024

inductive ReadError where
  | lineNotText
  | badLength (value : List Char)
  | endInHeader
  | noLength
  | tooLong (length : Nat)
  | endInBody
  | bodyNotJson
deriving DecidableEq

def ReadError.message : ReadError → String
  | lineNotText => "reading frame header"
  | badLength value => "invalid Content-Length " ++ String.ofList (Text.quoted value)
  | endInHeader => "stream ended inside a frame header"
  | noLength => "frame header has no Content-Length"
  | tooLong length =>
    "frame of " ++ toString length ++ " bytes exceeds limit of " ++ toString maxLength
  | endInBody => "reading frame body"
  | bodyNotJson => "decoding frame body"

inductive Header where
  | blank
  | length (bytes : Nat)
  | other
  | faulty (error : ReadError)
deriving DecidableEq

namespace Header

def lengthName : List Char := "content-length".toList

def isLengthName (name : List Char) : Bool := (Text.trim name).map Char.toLower = lengthName

def ofText (line : List Char) : Header :=
  let line := Text.trim line
  if line.isEmpty then blank
  else match Text.splitAtFirst? (· = ':') line with
    | none => other
    | some (name, value) =>
      if isLengthName name then
        match Decimal.below? UInt64.size (Text.trim value) with
        | some bytes => length bytes
        | none => faulty (.badLength (Text.trim value))
      else other

def ofLine (line : Bytes) : Header :=
  match Utf8.decode? line with
  | none => faulty .lineNotText
  | some text => ofText text

end Header

end WorkspaceServers.Frame
