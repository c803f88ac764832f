import CSurvey.Diagram.Basic

/-!
# Diagrams as text

The text of a diagram for Mermaid and for Graphviz.  The aggregate of the nodes
that are not shown is one more node, joined by dashed edges.
-/

namespace CSurvey

namespace Diagram

/-- The identifier of the aggregate. -/
def aggregateId : String :=
  "external_calls"

/-- A label inside quotes: backslashes and quotes are escaped. -/
def escapeLabel (label : String) : String :=
  String.ofList (label.toList.flatMap (fun c =>
    if c = '\\' then ['\\', '\\'] else if c = '"' then ['\\', '"'] else [c]))

/-- Lines, each ended by a line feed. -/
def unlines (lines : List String) : String :=
  String.join (lines.map (· ++ "\n"))

/-- The edges of the aggregate that have an identifier, as identifier and count. -/
def joined (diagram : Diagram) (counts : Tally) : List (String × Nat) :=
  counts.entries.filterMap (fun entry =>
    (diagram.idOf? entry.1).map (fun id => (id, entry.2)))

/-- A Mermaid flow chart under a heading. -/
def mermaidGraph (diagram : Diagram) (heading : String) : String :=
  let external := diagram.external
  unlines
    ([heading] ++
     diagram.nodes.map (fun node => s!"    {node.id}[\"{escapeLabel node.label}\"]") ++
     diagram.edges.map (fun edge =>
       if 1 < edge.count then s!"    {edge.source} -->|{edge.count}| {edge.target}"
       else s!"    {edge.source} --> {edge.target}") ++
     (if external.isEmpty then []
      else
        [s!"    {aggregateId}((\"{external.dropped.length} more\"))"] ++
        (diagram.joined external.outbound).map (fun (id, count) =>
          s!"    {id} -.->|{count}| {aggregateId}") ++
        (diagram.joined external.inbound).map (fun (id, count) =>
          s!"    {aggregateId} -.->|{count}| {id}")) ++
     diagram.nodes.map (fun node => s!"    class {node.id} {node.group}"))

def mermaidMindMap (diagram : Diagram) : String :=
  let groups := (Tally.ofNames (diagram.nodes.map DiagramNode.group)).names
  unlines
    (["mindmap", "  root((call structure))"] ++
     groups.flatMap (fun group =>
       s!"    {group}" ::
         (diagram.nodes.filter (fun node => node.group == group)).map (fun node =>
           s!"      {escapeLabel node.label}")) ++
     (if diagram.external.isEmpty then [] else [s!"    {diagram.external.dropped.length} more"]))

def mermaid (diagram : Diagram) : String :=
  match diagram.kind with
  | .flow => diagram.mermaidGraph "flowchart TD"
  | .hierarchy => diagram.mermaidGraph "graph LR"
  | .mindMap => diagram.mermaidMindMap

def groupColor (group : String) : String :=
  if group == "modbus" then "lightblue"
  else if group == "network" then "lightsalmon"
  else if group == "serial" then "khaki"
  else if group == "lifecycle" then "palegreen"
  else if group == "data_access" then "plum"
  else if group == "external" then "lightgrey"
  else "white"

/-- The text for Graphviz. -/
def dot (diagram : Diagram) : String :=
  let external := diagram.external
  unlines
    (["digraph revscope \x7b",
      if diagram.kind == .hierarchy then "  rankdir=LR;" else "  rankdir=TB;"] ++
     (if diagram.kind == .mindMap then ["  layout=twopi;"] else []) ++
     ["  node [shape=box, style=filled, fontname=\"JetBrains Mono\"];", ""] ++
     diagram.nodes.map (fun node =>
       s!"  {node.id} [label=\"{escapeLabel node.label}\", fillcolor={groupColor node.group}];") ++
     (if external.isEmpty then []
      else
        [s!"  {aggregateId} [label=\"{external.dropped.length} more\", " ++
          "shape=ellipse, fillcolor=lightgrey];"]) ++
     [""] ++
     diagram.edges.map (fun edge =>
       s!"  {edge.source} -> {edge.target} [label=\"{edge.count}\"];") ++
     (diagram.joined external.outbound).map (fun (id, count) =>
       s!"  {id} -> {aggregateId} [style=dashed, label=\"{count}\"];") ++
     (diagram.joined external.inbound).map (fun (id, count) =>
       s!"  {aggregateId} -> {id} [style=dashed, label=\"{count}\"];") ++
     ["\x7d"])

end Diagram

end CSurvey
