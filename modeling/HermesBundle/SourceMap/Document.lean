import HermesBundle.SourceMap.Mapping
import HermesBundle.SourceMap.Mappings
import HermesBundle.Text.Blank

/-! # Documents — what a source map says

    A document is either basic, with tables of sources and names and a
    mappings text, or indexed, with sections that each hold a basic
    document shifted by an offset.  `parse` flattens either kind into a
    list of mappings; indices are resolved and never wrap around. -/

namespace HermesBundle.SourceMap

/-- A member of a document, null when it is missing. -/
def member (doc : Json) (name : String) : Json := (doc.get? (Text.ofString name)).getD .null

/-- Whether a document has a member, even a null one. -/
def hasMember (doc : Json) (name : String) : Bool := (doc.get? (Text.ofString name)).isSome

/-- The complaint about a version; one that exceeds a limit cannot be
    shown. -/
def otherVersion (version : Json) : Fault :=
  match version.excess? Json.depthLimit with
  | none => .unsupportedVersion version
  | some e => .ofWriteError e

/-- Checks that a value is an object that declares version 3. -/
def requireVersion (doc : Json) : Except Fault Unit :=
  match doc with
  | .obj _ =>
      if (member doc "version").same (.int 3) then .ok ()
      else .error (otherVersion (member doc "version"))
  | _ => .error .notAnObject

/-- The source with a root in front of it.  A source that has a scheme or
    is absolute stands for itself. -/
def joinRoot (root source : Json) : Except Fault Json :=
  match source with
  | .str s =>
      if !root.isTruthy || s.contains "://" || s.startsWith "/" then .ok source
      else
        match root with
        | .str r => .ok (.str (r.trimRightOf '/' ++ Text.ofString "/" ++ s))
        | _ => .error (.misuse .noMembers)
  | _ => .ok source

/-- The items of a member that may be missing but else has to be an
    array. -/
def arrayMember (doc : Json) (name : String) : Except Fault (List Json) :=
  let value := member doc name
  if !value.isTruthy then .ok []
  else
    match value with
    | .arr items => .ok items
    | _ => .error .unexpectedKinds

/-- The sources of a basic document with the source root applied. -/
def sourceNames (doc : Json) : Except Fault (List Json) :=
  match doc with
  | .obj _ =>
      match arrayMember doc "sources" with
      | .error e => .error e
      | .ok sources => sources.mapM (joinRoot (member doc "sourceRoot"))
  | _ => .error (.misuse .noMembers)

/-- A coordinate shifted by an offset, which has to be a number. -/
def shift (n : Int) (offset : Json) : Except Fault Json :=
  match offset with
  | .int i => .ok (.int (n + i))
  | .bool b => .ok (.int (n + if b then 1 else 0))
  | .float d =>
      match Double.ofInt n with
      | .infinite _ => .error (.misuse .tooLarge)
      | whole => .ok (.float (whole.add d))
  | _ => .error (.misuse .unsuitedKind)

/-- The complaint about an index without an entry; an index of too many
    digits cannot be shown. -/
def missingEntry (table : IndexTable) (index : Int) : Fault :=
  if index.natAbs < Nat.pow 10 Json.digitLimit then .indexOutOfRange table index
  else .tooManyDigits

/-- The entry of a table at an index. -/
def entryAt (table : IndexTable) (entries : List Json) (index : Int) : Except Fault Json :=
  if index < 0 then .error (missingEntry table index)
  else
    match entries[index.toNat]? with
    | none => .error (missingEntry table index)
    | some entry => .ok entry

/-- The mapping of a segment on a line of the document.  The column offset
    applies to the first line only. -/
def place (sources names : List Json) (lineOffset columnOffset : Json) (line : Nat)
    (s : Segment) : Except Fault Mapping := do
  let column ← shift s.column (if line = 0 then columnOffset else .int 0)
  match s.origin with
  | none =>
      let line ← shift line lineOffset
      return .bare line column
  | some o =>
      let name ←
        match o.name with
        | none => pure Json.null
        | some index => entryAt .names names index
      let line ← shift line lineOffset
      let source ← entryAt .sources sources o.source
      return ⟨line, column, source, .int o.line, .int o.column, name⟩

/-- The mappings of the lines from a given one on. -/
def placeLines (sources names : List Json) (lineOffset columnOffset : Json) (line : Nat) :
    List (List Segment) → Except Fault (List Mapping)
  | [] => .ok []
  | segments :: rest => do
      let here ← segments.mapM (place sources names lineOffset columnOffset line)
      let more ← placeLines sources names lineOffset columnOffset (line + 1) rest
      return here ++ more

/-- The mappings of a basic document, shifted by an offset. -/
def parseBasic (doc lineOffset columnOffset : Json) : Except Fault (List Mapping) := do
  let sources ← sourceNames doc
  let text := (doc.get? "mappings").getD (.str [])
  match text, arrayMember doc "names" with
  | .str text, .ok names =>
      let lines ← Mappings.decode text
      placeLines sources names lineOffset columnOffset 0 lines
  | _, _ => throw .unexpectedKinds

/-- A coordinate of an offset, 0 when it is missing. -/
def offsetMember (offset : Json) (name : String) : Json :=
  (offset.get? (Text.ofString name)).getD (.int 0)

/-- The mappings of one section. -/
def parseSection (part : Json) : Except Fault (List Mapping) := do
  let offset := member part "offset"
  let inner := member part "map"
  if inner.isNull then throw .sectionWithoutMap
  match if offset.isTruthy then offset else .obj [] with
  | .obj members =>
      requireVersion inner
      if hasMember inner "sections" then throw .nestedSections
      parseBasic inner (offsetMember (.obj members) "line") (offsetMember (.obj members) "column")
  | _ => throw (.misuse .noMembers)

/-- Whether a value is an object. -/
def isObject : Json → Bool
  | .obj _ => true
  | _ => false

/-- All mappings of a document, in the order in which it lists them. -/
def parse (doc : Json) : Except Fault (List Mapping) := do
  requireVersion doc
  match doc.get? "sections" with
  | none => parseBasic doc (.int 0) (.int 0)
  | some (.arr sections) =>
      if sections.all isObject then
        let parts ← sections.mapM parseSection
        return parts.flatten
      else throw .sectionsNotObjects
  | some _ => throw .sectionsNotObjects

/-- The basic documents of a document. -/
def basicDocuments (doc : Json) : Except Fault (List Json) :=
  match doc with
  | .obj _ =>
      match doc.get? "sections" with
      | none => .ok [doc]
      | some sections => do
          let parts ← elements sections
          return parts.filterMap fun part =>
            let inner := member part "map"
            if isObject inner then some inner else none
  | _ => .ok []

/-- Adds pairs to a table; of several values for a key the first counts. -/
def addPairs {α : Type} (table : Json.Table α) : List (Json × α) → Except Fault (Json.Table α)
  | [] => .ok table
  | (key, value) :: rest =>
      if key.isScalar then addPairs (table.addNew key value) rest
      else .error (.misuse .unsuitedKind)

/-- The sources of a basic document paired with their embedded contents. -/
def contentPairs (doc : Json) : Except Fault (List (Json × Json)) := do
  let sources ← sourceNames doc
  let value := member doc "sourcesContent"
  let contents ← elements (if value.isTruthy then value else .arr [])
  return (sources.zip contents).filter fun (_, content) => !content.isNull

/-- The sources of a basic document paired with their metadata. -/
def metadataPairs (doc : Json) : Except Fault (List (Json × Json)) :=
  match member doc "x_facebook_sources" with
  | .arr entries => do
      let sources ← sourceNames doc
      return sources.zip entries
  | _ => .ok []

/-- Collects the pairs of several basic documents into one table. -/
def collect (pairs : Json → Except Fault (List (Json × Json))) (table : Json.Table Json) :
    List Json → Except Fault (Json.Table Json)
  | [] => .ok table
  | doc :: rest => do
      let found ← pairs doc
      let table ← addPairs table found
      collect pairs table rest

/-- The embedded content of each source of a document. -/
def sourcesContent (doc : Json) : Except Fault (Json.Table Json) := do
  let docs ← basicDocuments doc
  collect contentPairs [] docs

/-- The metadata of each source of a document. -/
def facebookSources (doc : Json) : Except Fault (Json.Table Json) := do
  let docs ← basicDocuments doc
  collect metadataPairs [] docs

end HermesBundle.SourceMap
