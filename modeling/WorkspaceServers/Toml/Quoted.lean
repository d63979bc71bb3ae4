import WorkspaceServers.Toml.Scalar

/-!
Quoted texts and keys. Each reader takes the characters behind an opening quote and
returns the text and what follows its closing quote.
-/

namespace WorkspaceServers.Toml

def isBlank (c : Char) : Bool := c = ' ' || c = '\t'

def isPlain (c : Char) : Bool := c = '\t' || (0x20 ≤ c.toNat && c.toNat ≠ 0x7F)

def scalarEscape? (width : Nat) (text : List Char) : Option (Char × List Char) := do
  let numeral := text.take width
  if numeral.length < width then none
  let n := ofDigits 16 (← numeral.mapM (digitOf? 16))
  if n.isValidChar then some (Char.ofNat n, text.drop width) else none

def escape? : List Char → Option (Char × List Char)
  | [] => none
  | c :: rest =>
    if c = 'b' then some ('\x08', rest)
    else if c = 't' then some ('\t', rest)
    else if c = 'n' then some ('\n', rest)
    else if c = 'f' then some ('\x0c', rest)
    else if c = 'r' then some ('\r', rest)
    else if c = 'e' then some ('\x1b', rest)
    else if c = '"' then some ('"', rest)
    else if c = '\\' then some ('\\', rest)
    else if c = 'x' then scalarEscape? 2 rest
    else if c = 'u' then scalarEscape? 4 rest
    else if c = 'U' then scalarEscape? 8 rest
    else none

def line? (quote : Char) : Nat → List Char → Option (List Char × List Char)
  | 0, _ | _, [] => none
  | fuel + 1, c :: rest =>
    if c = quote then some ([], rest)
    else if c = '\\' ∧ quote = '"' then do
      let (c, rest) ← escape? rest
      let (text, rest) ← line? quote fuel rest
      return (c :: text, rest)
    else if isPlain c then do
      let (text, rest) ← line? quote fuel rest
      return (c :: text, rest)
    else none

def afterLineEnd? : List Char → Option (List Char)
  | '\n' :: rest => some rest
  | '\r' :: '\n' :: rest => some rest
  | _ => none

def skipBlankLines : List Char → List Char
  | '\r' :: '\n' :: rest => skipBlankLines rest
  | c :: rest => if isBlank c || c = '\n' then skipBlankLines rest else c :: rest
  | [] => []

/-- A text over several lines, closed by three quotes, in front of which up to two more
belong to the text. A backslash at the end of a line joins it with the next text. -/
def lines? (quote : Char) : Nat → List Char → Option (List Char × List Char)
  | 0, _ | _, [] => none
  | fuel + 1, c :: rest =>
    if c = quote then
      let run := ((c :: rest).takeWhile (· = quote)).length
      if 3 ≤ run then
        let kept := min run 5 - 3
        some (List.replicate kept quote, (c :: rest).drop (kept + 3))
      else do
        let (text, rest) ← lines? quote fuel rest
        return (c :: text, rest)
    else if c = '\\' ∧ quote = '"' then
      match afterLineEnd? (rest.dropWhile isBlank) with
      | some next => lines? quote fuel (skipBlankLines next)
      | none => do
        let (c, rest) ← escape? rest
        let (text, rest) ← lines? quote fuel rest
        return (c :: text, rest)
    else if isPlain c ∨ c = '\n' ∨ (c = '\r' ∧ rest.head? = some '\n') then do
      let (text, rest) ← lines? quote fuel rest
      return (c :: text, rest)
    else none

/-- A quoted value on one line or, behind three quotes, on several; a line end right
behind the opening is dropped. -/
def quoted? (quote : Char) (text : List Char) : Option (String × List Char) := do
  let triple := [quote, quote, quote]
  let (chars, rest) ←
    if triple.isPrefixOf text then
      let body := text.drop 3
      lines? quote (body.length + 1) ((afterLineEnd? body).getD body)
    else if text.head? = some quote then line? quote text.length text.tail
    else none
  return (String.ofList chars, rest)

def isBare (c : Char) : Bool :=
  ('a' ≤ c && c ≤ 'z') || ('A' ≤ c && c ≤ 'Z') || ('0' ≤ c && c ≤ '9') || c = '-' || c = '_'

def simpleKey? (text : List Char) : Option (String × List Char) := do
  match text.head? with
  | some '"' =>
    let (chars, rest) ← line? '"' text.length text.tail
    return (String.ofList chars, rest)
  | some '\'' =>
    let (chars, rest) ← line? '\'' text.length text.tail
    return (String.ofList chars, rest)
  | _ =>
    let (name, rest) := text.span isBare
    if name.isEmpty then none else return (String.ofList name, rest)

/-- How many keys dots may join and how many brackets may be open at once. -/
def nestingLimit : Nat := 80

/-- At most so many keys, joined by dots with blanks around them: those on the way and the
last one. -/
def key? : Nat → List Char → Option ((List String × String) × List Char)
  | 0, _ => none
  | limit + 1, text => do
    let (name, rest) ← simpleKey? (text.dropWhile isBlank)
    match rest.dropWhile isBlank with
    | '.' :: rest =>
      let ((path, last), rest) ← key? limit rest
      return ((name :: path, last), rest)
    | rest => return (([], name), rest)

end WorkspaceServers.Toml
