import WorkspaceServers.Frame.Header
import WorkspaceServers.Json.Parser

/-!
Reading frames off a byte stream. A reading says what was found, what is left of the
stream, and whether it is settled: an unsettled reading came up against the end of the
bytes, so more bytes could still change it.
-/

namespace WorkspaceServers.Frame

structure Reading (α : Type) where
  found : α
  rest : Bytes
  settled : Bool

inductive Block where
  | finished
  | length (bytes : Nat)
  | failed (error : ReadError)
deriving DecidableEq

/-- A block at its blank line: the last length counts. -/
def Block.close : Option Nat → Block
  | some bytes => length bytes
  | none => failed .noLength

def lineFeed : UInt8 := 0x0A

/-- Reads header lines up to a blank one. `line` holds the bytes of the line begun, the
last one first, and `started` tells whether a line came before it. The end of the
stream ends a line too. -/
def readBlock (length : Option Nat) (started : Bool) (line : Bytes) : Bytes → Reading Block
  | [] =>
    if line = [] then ⟨if started then .failed .endInHeader else .finished, [], false⟩
    else match Header.ofLine line.reverse with
      | .blank => ⟨.close length, [], false⟩
      | .faulty error => ⟨.failed error, [], false⟩
      | _ => ⟨.failed .endInHeader, [], false⟩
  | byte :: rest =>
    if byte = lineFeed then
      match Header.ofLine line.reverse with
      | .blank => ⟨.close length, rest, true⟩
      | .faulty error => ⟨.failed error, rest, true⟩
      | .length bytes => readBlock (some bytes) true [] rest
      | .other => readBlock length true [] rest
    else readBlock length started (byte :: line) rest

inductive Found where
  | frame (json : Json)
  | finished
  | failed (error : ReadError)

def readBody : Reading Block → Reading Found
  | ⟨.finished, rest, settled⟩ => ⟨.finished, rest, settled⟩
  | ⟨.failed error, rest, settled⟩ => ⟨.failed error, rest, settled⟩
  | ⟨.length bytes, rest, settled⟩ =>
    if maxLength < bytes then ⟨.failed (.tooLong bytes), rest, settled⟩
    else if rest.length < bytes then ⟨.failed .endInBody, [], false⟩
    else match Json.ofBytes? (rest.take bytes) with
      | some json => ⟨.frame json, rest.drop bytes, settled⟩
      | none => ⟨.failed .bodyNotJson, rest.drop bytes, settled⟩

def read (stream : Bytes) : Reading Found := readBody (readBlock none false [] stream)

/-- Reads up to `count` times and stops behind the end of the stream. -/
def readMany : Nat → Bytes → List Found
  | 0, _ => []
  | count + 1, stream =>
    match read stream with
    | ⟨.finished, _, _⟩ => [.finished]
    | ⟨found, rest, _⟩ => found :: readMany count rest

end WorkspaceServers.Frame
