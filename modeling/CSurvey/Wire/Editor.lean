import CSurvey.Editor.Session
import CSurvey.Wire.Advice

/-!
# Editor sessions as JSON

Lines and characters, severities by number, and the answer to an editor that asks
what is offered.
-/

namespace CSurvey

def Position.toJson (position : Position) : Json :=
  .obj [("line", .nat position.line), ("character", .nat position.character)]

def TextRange.toJson (range : TextRange) : Json :=
  .obj [("start", range.start.toJson), ("end", range.stop.toJson)]

def Diagnostic.toJson (diagnostic : Diagnostic) : Json :=
  .obj ([("range", diagnostic.range.toJson), ("severity", .nat diagnostic.severity.number),
      ("code", .str diagnostic.code), ("source", .str "revscope"),
      ("message", .str diagnostic.message)] ++
    match diagnostic.finding with
    | some finding => [("data", finding.toJson)]
    | none => [])

def Publication.toJson (publication : Publication) : Json :=
  .obj ([("uri", .str publication.uri),
      ("diagnostics", .list Diagnostic.toJson publication.diagnostics)] ++
    match publication.version with
    | some version => [("version", .int version)]
    | none => [])

namespace EditorSession

/-- What a session offers: documents are sent whole when they are opened, changed and saved. -/
def offer : Json :=
  .obj [("capabilities", .obj [("textDocumentSync", .obj [("openClose", .bool true),
      ("change", .nat 1), ("save", .obj [("includeText", .bool true)])])]),
    ("serverInfo", .obj [("name", .str "revscope-lsp"), ("version", .str "0.1.0")])]

end EditorSession

end CSurvey
