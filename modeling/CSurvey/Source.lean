import CSurvey.LineIndex
import CSurvey.Text.Digest
import CSurvey.Text.Utf8

/-!
# Sources

A source is a text under a name.  Its line index and digest are computed from
the text.
-/

namespace CSurvey

/-- A text and the name it is shown under. -/
structure Source where
  name : String
  text : String
deriving DecidableEq, Repr

/-- What is reported about a source. -/
structure SourceInfo where
  name : String
  hash : String
  totalLines : Nat
  totalBytes : Nat
deriving DecidableEq, Repr, Inhabited

namespace Source

/-- The name of a text that came without one. -/
def memoryName : String :=
  "<memory>"

/-- A text without a name of its own. -/
def ofText (text : String) : Source :=
  ⟨memoryName, text⟩

/-- The contents of a file, ill-formed parts replaced. -/
def ofOctets (name : String) (octets : List UInt8) : Source :=
  ⟨name, String.ofList (Text.Utf8.decodeLossy octets)⟩

def chars (source : Source) : List Char :=
  source.text.toList

def lines (source : Source) : LineIndex :=
  LineIndex.ofText source.text

def size (source : Source) : Nat :=
  Text.byteLength source.text.toList

/-- The SHA-256 digest of the text in hexadecimal. -/
def hash (source : Source) : String :=
  Text.Digest.ofText source.text

def info (source : Source) : SourceInfo :=
  ⟨source.name, source.hash, source.lines.count, source.size⟩

end Source

end CSurvey
