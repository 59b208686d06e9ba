import HermesBundle.SourceMap.Assembly
import HermesBundle.SourceMap.Document
import HermesBundle.SourceMap.Lookup

/-! # Composition — a chain of source maps folded into one

    A chain runs from the map closest to the sources to the one closest
    to the output.  The last map gives the generated positions; each of
    its mappings is looked up in the earlier maps one after another, the
    last but one first.  Where a map has no answer the mapping keeps what
    it refers to. -/

namespace HermesBundle.SourceMap

/-- What a mapping becomes when an earlier map answers for the position it
    refers to. -/
def Mapping.redirect (m hit : Mapping) : Mapping :=
  ⟨m.line, m.column, hit.source, hit.sourceLine, hit.sourceColumn,
    if hit.name.isNull then m.name else hit.name⟩

/-- A mapping looked up in an earlier map. -/
def resolveThrough (index : LineIndex) (m : Mapping) : Except Fault Mapping :=
  if m.isLocated then
    match index.sourcePosition m.sourceLine m.sourceColumn with
    | .error e => .error e
    | .ok none => .ok m
    | .ok (some hit) => .ok (m.redirect hit)
  else .ok m

/-- Mappings looked up in earlier maps, the nearest of which comes
    first. -/
def resolveAll (ms : List Mapping) : List Json → Except Fault (List Mapping)
  | [] => .ok ms
  | earlier :: rest => do
      let parsed ← parse earlier
      let index ← LineIndex.ofMappings parsed
      let resolved ← ms.mapM (resolveThrough index)
      resolveAll resolved rest

/-- Adds the entries of a table that are not there yet. -/
def mergeTables (table more : Json.Table Json) : Json.Table Json :=
  more.foldl (fun t (key, value) => t.addNew key value) table

/-- The embedded contents of a chain; of several for a source the first
    counts. -/
def chainContents (table : Json.Table Json) : List Json → Except Fault (Json.Table Json)
  | [] => .ok table
  | doc :: rest => do
      let found ← sourcesContent doc
      chainContents (mergeTables table found) rest

/-- Members of the last map that are kept as they are. -/
def keptMembers : List String := ["x_hermes_function_offsets"]

/-- The kept members that a document has. -/
def keptFrom (doc : Json) : List (Text × Json) :=
  keptMembers.filterMap fun name =>
    (doc.get? (Text.ofString name)).map fun value => (Text.ofString name, value)

/-- The metadata of the first map in the order of the composed sources. -/
def metadataMember (metadata : Json.Table Json) (sources : List Json) : List (Text × Json) :=
  if metadata.isEmpty then []
  else
    [(Text.ofString "x_facebook_sources",
      .arr (sources.map fun s => (metadata.get? s).getD .null))]

/-- Composes a chain of documents. -/
def compose (maps : List Json) : Except Fault Json :=
  match maps.getLast?, maps.head? with
  | some last, some first => do
      requireVersion last
      let own ← parse last
      let resolved ← resolveAll own maps.dropLast.reverse
      let contents ← chainContents [] maps
      let result ← assemble .computed resolved (member last "file") contents
      let metadata ← facebookSources first
      return .obj (result.members ++ keptFrom last ++ metadataMember metadata result.sources)
  | _, _ => throw .emptyChain

end HermesBundle.SourceMap
