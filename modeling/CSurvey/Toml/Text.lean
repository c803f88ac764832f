import CSurvey.Json.Reader

/-!
# Strings and keys of TOML

Each reader takes what stands at the front of a text and gives what follows it.
-/

namespace CSurvey.Toml

/-- Whether a character may stand in a comment or a literal string. -/
def isPlain (c : Char) : Bool :=
  c == '\t' || (0x20 ≤ c.toNat && c.toNat ≠ 0x7F)

/-- Blanks within a line. -/
def isSpace (c : Char) : Bool :=
  c == ' ' || c == '\t'

def skipSpaces (cs : List Char) : List Char :=
  cs.dropWhile isSpace

/-- What follows a line break. -/
def newline? : List Char → Option (List Char)
  | '\n' :: rest => some rest
  | '\r' :: '\n' :: rest => some rest
  | _ => none

/-- What follows a comment, if one stands at the front. -/
def skipComment (cs : List Char) : List Char :=
  if cs.head? == some '#' then cs.dropWhile isPlain else cs

/-- Skip blanks, comments and line breaks; `fuel` bounds the number of lines. -/
def skipLines : Nat → List Char → List Char
  | 0, cs => cs
  | fuel + 1, cs =>
    let rest := skipComment (skipSpaces cs)
    match newline? rest with
    | some after => skipLines fuel after
    | none => rest

/-- The character with a code written in hexadecimal digits. -/
def charOfHex? (digits : List Char) : Option Char := do
  let code := (← digits.mapM Json.Reader.hexValue?).foldl (fun value digit => value * 16 + digit) 0
  if code < 0xD800 || (0xDFFF < code && code < 0x110000) then some (Char.ofNat code) else none

/-- The character of an escape, after its backslash. -/
def escape? : List Char → Option (Char × List Char)
  | 'b' :: rest => some ('\x08', rest)
  | 't' :: rest => some ('\t', rest)
  | 'n' :: rest => some ('\n', rest)
  | 'f' :: rest => some ('\x0c', rest)
  | 'r' :: rest => some ('\r', rest)
  | '"' :: rest => some ('"', rest)
  | '\\' :: rest => some ('\\', rest)
  | 'u' :: rest =>
    if rest.length < 4 then none else (charOfHex? (rest.take 4)).map (fun c => (c, rest.drop 4))
  | 'U' :: rest =>
    if rest.length < 8 then none else (charOfHex? (rest.take 8)).map (fun c => (c, rest.drop 8))
  | _ => none

/-- The rest of a string of one line after its opening quote; `fuel` bounds its characters. -/
def lineString (quote : Char) : Nat → List Char → List Char → Option (String × List Char)
  | 0, _, _ => none
  | _, _, [] => none
  | fuel + 1, done, c :: rest =>
    if c == quote then some (String.ofList done.reverse, rest)
    else if c == '\\' && quote == '"' then do
      let (plain, rest) ← escape? rest
      lineString quote fuel (plain :: done) rest
    else if isPlain c then lineString quote fuel (c :: done) rest
    else none

/-- Skip the blanks and line breaks after a backslash that ends a line. -/
def skipFolded : Nat → List Char → List Char
  | 0, cs => cs
  | fuel + 1, cs =>
    let rest := skipSpaces cs
    match newline? rest with
    | some after => skipFolded fuel after
    | none => rest

/-- The rest of a string of several lines after its opening quotes; `fuel` bounds its
characters.  Up to two quotes may stand right before the closing three. -/
def blockString (quote : Char) : Nat → List Char → List Char → Option (String × List Char)
  | 0, _, _ => none
  | _, _, [] => none
  | fuel + 1, done, c :: rest =>
    let quotes := ((c :: rest).takeWhile (fun other => other == quote)).length
    if 3 ≤ quotes then
      let inside := min (quotes - 3) 2
      some (String.ofList (List.replicate inside quote ++ done).reverse,
        (c :: rest).drop (inside + 3))
    else if c == '\\' && quote == '"' then
      match newline? (skipSpaces rest) with
      | some after => blockString quote fuel done (skipFolded after.length after)
      | none => do
        let (plain, rest) ← escape? rest
        blockString quote fuel (plain :: done) rest
    else
      match newline? (c :: rest) with
      | some after => blockString quote fuel ('\n' :: done) after
      | none => if isPlain c then blockString quote fuel (c :: done) rest else none

/-- The string at the front. -/
def string? : List Char → Option (String × List Char)
  | '"' :: '"' :: '"' :: rest =>
    blockString '"' (rest.length + 1) [] ((newline? rest).getD rest)
  | '\'' :: '\'' :: '\'' :: rest =>
    blockString '\'' (rest.length + 1) [] ((newline? rest).getD rest)
  | '"' :: rest => lineString '"' (rest.length + 1) [] rest
  | '\'' :: rest => lineString '\'' (rest.length + 1) [] rest
  | _ => none

/-- Whether a character may stand in a key without quotes. -/
def isKeyChar (c : Char) : Bool :=
  c.isAlphanum || c == '_' || c == '-'

/-- The part of a key at the front: in quotes, or a word. -/
def keyPart? : List Char → Option (String × List Char)
  | '"' :: rest => lineString '"' (rest.length + 1) [] rest
  | '\'' :: rest => lineString '\'' (rest.length + 1) [] rest
  | cs =>
    let word := cs.takeWhile isKeyChar
    if word.isEmpty then none else some (String.ofList word, cs.dropWhile isKeyChar)

/-- The key at the front, as its parts before the last and that one; blanks around are skipped.
`fuel` bounds the number of parts. -/
def key? : Nat → List String → List Char → Option (List String × String × List Char)
  | 0, _, _ => none
  | fuel + 1, path, cs => do
    let (part, rest) ← keyPart? (skipSpaces cs)
    match skipSpaces rest with
    | '.' :: more => key? fuel (path ++ [part]) more
    | rest => some (path, part, rest)

end CSurvey.Toml
