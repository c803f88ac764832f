import CSurvey.Definition
import CSurvey.Fault
import CSurvey.Source
import CSurvey.Token.Scan

/-!
# Chunks

A source is cut into runs of whole lines.  A cut may follow a clean line: no brace
is open after it, no token runs on past it, and the last token up to it, comments
outside directives not counted, is a closing brace or a semicolon of code or
belongs to a directive.  Cutting is greedy: a chunk ends at the latest clean line
among its first `limit` lines, or else at the first clean line after them, or
else at the end of the text.
-/

namespace CSurvey

/-- The braces open after some tokens, and whether they end what they are part of. -/
structure LineState where
  depth : Nat
  clean : Bool
deriving DecidableEq, Repr

namespace LineState

/-- Before the first token. -/
def initial : LineState :=
  ⟨0, true⟩

/-- After one more token. -/
def step (state : LineState) (tok : Token) : LineState where
  depth := if tok.isPunct Token.openBrace && !tok.directive then tok.depth + 1 else tok.depth
  clean :=
    if tok.directive then true
    else if tok.isCode then tok.text == Token.closeBrace || tok.text == ";"
    else if tok.kind.isLiteral then false
    else state.clean

/-- After the tokens that end on or before a line. -/
def atLine (tokens : List Token) (line : Nat) : LineState :=
  (tokens.takeWhile (fun tok => tok.span.endLine ≤ line)).foldl step initial

end LineState

def runsPast (tokens : List Token) (line : Nat) : Bool :=
  tokens.any (fun tok => tok.span.line ≤ line && line < tok.span.endLine)

/-- Whether a cut may follow a line. -/
def isCleanLine (tokens : List Token) (line : Nat) : Bool :=
  let state := LineState.atLine tokens line
  state.depth == 0 && state.clean && !runsPast tokens line

def cleanLines (tokens : List Token) (count : Nat) : List Bool :=
  (List.range count).map (fun before => isCleanLine tokens (before + 1))

/-- Whether the text ends inside a brace, or its last token is not closed. -/
def endsOpen (tokens : List Token) (count : Nat) : Bool :=
  0 < (LineState.atLine tokens count).depth || tokens.getLast?.any (fun tok => !tok.terminated)

/-- The number of lines up to the cut: the first line at or past `limit` by which a clean line has
been seen cuts after the latest clean line.  `passed` lines came before these, the latest clean
one of which is `latest`. -/
def cutAfter (limit : Nat) (passed : Nat) (latest : Option Nat) : List Bool → Option Nat
  | [] => none
  | clean :: rest =>
    let size := passed + 1
    let latest := if clean then some size else latest
    if limit ≤ size && latest.isSome then latest else cutAfter limit size latest rest

/-- The sizes in lines of the chunks after the first `skip` lines, which belong to the last
chunk. -/
def chunkSizes (limit : Nat) : Nat → List Bool → List Nat
  | _, [] => []
  | skip + 1, _ :: rest => chunkSizes limit skip rest
  | 0, clean :: rest =>
    let size := (cutAfter limit 0 none (clean :: rest)).getD (rest.length + 1)
    size :: chunkSizes limit (size - 1) rest

/-- The lines of a chunk, and whether the text ends in it without being closed. -/
structure ChunkBounds where
  first : Nat
  last : Nat
  incomplete : Bool
deriving DecidableEq, Repr

/-- The lines of chunks of the given sizes from line `first` on; `openEnd` marks the last one. -/
def boundsOfSizes (openEnd : Bool) (first : Nat) : List Nat → List ChunkBounds
  | [] => []
  | size :: rest =>
    ⟨first, first + size - 1, rest.isEmpty && openEnd⟩ ::
      boundsOfSizes openEnd (first + size) rest

/-- The bounds of the chunks of a text with the given tokens and number of lines. -/
def chunkBounds (tokens : List Token) (count limit : Nat) : List ChunkBounds :=
  boundsOfSizes (endsOpen tokens count) 1 (chunkSizes limit 0 (cleanLines tokens count))

/-- The bounds of the chunks, for a limit of at least one line. -/
def planChunks (tokens : List Token) (count limit : Nat) : Except Fault (List ChunkBounds) :=
  if limit = 0 then .error (.argument .zeroChunkSize) else .ok (chunkBounds tokens count limit)

/-- A run of lines with its text and the functions that begin in it. -/
structure Chunk where
  id : Nat
  startLine : Nat
  endLine : Nat
  lineCount : Nat
  byteLength : Nat
  rawText : String
  incomplete : Bool
  /-- Whether it is longer than the limit, for want of a clean line. -/
  oversized : Bool
  functions : List FunctionRecord
deriving DecidableEq, Inhabited

namespace Chunk

def label (chunk : Chunk) : String :=
  s!"chunk_{chunk.id}"

def functionNames (chunk : Chunk) : List String :=
  chunk.functions.map FunctionRecord.name

/-- Number the definitions of each name over all chunks. -/
def assignOrdinals (before : List String) : List Chunk → List Chunk
  | [] => []
  | chunk :: rest =>
    { chunk with functions := FunctionRecord.assignOrdinals before chunk.functions } ::
      assignOrdinals (chunk.functionNames ++ before) rest

def tokensOf (tokens : List Token) (bounds : ChunkBounds) : List Token :=
  tokens.filter (fun tok => bounds.first ≤ tok.span.line && tok.span.line ≤ bounds.last)

/-- The chunk with the given number and bounds. -/
def ofBounds (cs : List Char) (lines : LineIndex) (tokens : List Token) (limit id : Nat)
    (bounds : ChunkBounds) : Chunk :=
  let functions := extractFunctions cs (tokensOf tokens bounds) id
  let range := lines.linesRange bounds.first bounds.last
  let lineCount := bounds.last - bounds.first + 1
  { id
    startLine := bounds.first
    endLine := bounds.last
    lineCount
    byteLength := range.2 - range.1
    rawText := String.ofList (Text.slice cs range.1 range.2)
    incomplete := bounds.incomplete || functions.any FunctionRecord.incomplete
    oversized := limit < lineCount
    functions }

end Chunk

/-- The chunks of a source, numbered from 1, with the ordinals of their functions. -/
def chunkSource (source : Source) (tokens : List Token) (limit : Nat) :
    Except Fault (List Chunk) := do
  let bounds ← planChunks tokens source.lines.count limit
  let chunks := bounds.zipIdx.map (fun (bounds, index) =>
    Chunk.ofBounds source.chars source.lines tokens limit (index + 1) bounds)
  return Chunk.assignOrdinals [] chunks

end CSurvey
