import WorkspaceServers.Number.Decimal

/-!
Spans of time in whole milliseconds, and their text.
-/

namespace WorkspaceServers

structure Duration where
  milliseconds : Nat
deriving DecidableEq

namespace Duration

def ofSeconds (seconds : Nat) : Duration := ⟨1000 * seconds⟩

def seconds (span : Duration) : Nat := span.milliseconds / 1000

def nanoseconds (span : Duration) : Nat := span.milliseconds % 1000 * 1000000

/-- The digits behind the point of a number of thousandths, without trailing zeros. -/
def thousandths (n : Nat) : List Char :=
  let padded := List.replicate (3 - (Decimal.digits n).length) '0' ++ Decimal.digits n
  (padded.reverse.dropWhile (· = '0')).reverse

def text (span : Duration) : String :=
  let ms := span.milliseconds
  if ms = 0 then "0ns"
  else if ms < 1000 then toString ms ++ "ms"
  else if ms % 1000 = 0 then toString (ms / 1000) ++ "s"
  else toString (ms / 1000) ++ "." ++ String.ofList (thousandths (ms % 1000)) ++ "s"

end Duration

end WorkspaceServers
