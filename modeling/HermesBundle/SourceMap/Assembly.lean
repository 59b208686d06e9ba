import HermesBundle.SourceMap.Mapping
import HermesBundle.SourceMap.Mappings

/-! # Assembly — a basic document from mappings

    Mappings are put in the order of their generated positions.  Sources
    and names are entered into the tables at their first use, so no table
    has an entry twice and none that no segment refers to. -/

namespace HermesBundle.SourceMap

/-- The place in a source of a mapping that has one. -/
structure Reach where
  source : Json
  line : Json
  column : Json
  name : Json

/-- A mapping with its line found fit to be written. -/
structure Placed where
  line : Nat
  column : Json
  reach : Option Reach

/-- Whether a line lies behind any number of lines. -/
def isUnreachable : Json → Bool
  | .float (.infinite false) => true
  | _ => false

/-- Admits a mapping whose line is a line number and whose source and name
    can be entered into tables.  `count` is the number of lines so far; a
    number below zero counts from the last of them.  Lines are added up to
    the one of the mapping before anything else is looked at. -/
def placedOf (count : Nat) (m : Mapping) : Except Fault Placed :=
  if isUnreachable m.line then .error .endless
  else
    match m.line.toInt? with
    | none => .error (.misuse .unsuitedKind)
    | some line =>
        if m.isLocated && !(m.source.isScalar && m.name.isScalar) then
          .error (.misuse .unsuitedKind)
        else if line < -(count : Int) then .error (.misuse .noElement)
        else
          .ok ⟨(if line < 0 then count + line else line).toNat, m.column,
            if m.isLocated then some ⟨m.source, m.sourceLine, m.sourceColumn, m.name⟩
            else none⟩

/-- Admits mappings one after another. -/
def placeAll (count : Nat) : List Mapping → Except Fault (List Placed)
  | [] => .ok []
  | m :: rest => do
      let p ← placedOf count m
      let more ← placeAll (max count (p.line + 1)) rest
      return p :: more

/-- The values of a list at their first use. -/
def firstUses : List Json → List Json
  | [] => []
  | x :: rest => x :: (firstUses rest).filter fun y => !x.same y

/-- The sources that mappings refer to, at their first use. -/
def sourceTable (ps : List Placed) : List Json :=
  firstUses (ps.filterMap fun p => p.reach.map (·.source))

/-- The names that mappings carry, at their first use. -/
def nameTable (ps : List Placed) : List Json :=
  firstUses (ps.filterMap fun p => p.reach.bind fun r => if r.name.isNull then none else some r.name)

/-- The place of an entry in a table. -/
def indexIn (table : List Json) (x : Json) : Int := (table.findIdx fun y => y.same x : Nat)

/-- The row of fields of a mapping, with indices into the tables. -/
def fieldRow (sources names : List Json) (p : Placed) : List Json :=
  match p.reach with
  | none => [p.column]
  | some r =>
      [p.column, .int (indexIn sources r.source), r.line, r.column]
        ++ if r.name.isNull then [] else [.int (indexIn names r.name)]

/-- The number of lines that mappings reach. -/
def lineCount (ps : List Placed) : Nat := ps.foldl (fun n p => max n (p.line + 1)) 0

/-- The rows of each line: every row stands on its line before those that
    follow it. -/
def rowLines (rows : List (Nat × List Json)) (count : Nat) : List (List (List Json)) :=
  let empty : Array (List (List Json)) := Array.replicate count []
  (rows.foldr (fun (line, row) lines => lines.modify line (row :: ·)) empty).toList

/-- A number that is written as the difference to the one before it.  A
    fraction is no such number, and from it only an integer can be taken
    that is not too large. -/
def written (previous : Int) : Json → Except Fault Int
  | .float _ =>
      match Double.ofInt previous with
      | .infinite _ => .error (.misuse .tooLarge)
      | _ => .error (.misuse .unsuitedKind)
  | j =>
      match j.toInt? with
      | some i => .ok i
      | none => .error (.misuse .unsuitedKind)

/-- The segment of a row of fields, of which each is looked at when its
    difference is written.  Of rows of two or three fields only the first
    is used, of those longer than five only four. -/
def segmentOfRow (previous : Int) (r : Reference) : List Json → Except Fault Segment
  | [] => .error (.misuse .noElement)
  | column :: source :: line :: sourceColumn :: more => do
      let column ← written previous column
      let source ← written r.source source
      let line ← written r.line line
      let sourceColumn ← written r.column sourceColumn
      match more with
      | [name] => do
          let name ← written r.name name
          return ⟨column, some ⟨source, line, sourceColumn, some name⟩⟩
      | _ => return ⟨column, some ⟨source, line, sourceColumn, none⟩⟩
  | column :: _ => do
      let column ← written previous column
      return ⟨column, none⟩

/-- The values of a row of fields, which are asked for by their places. -/
def fieldsOf : Json → Except Fault (List Json)
  | .obj _ => .error (.misuse .noEntry)
  | j => elements j

/-- The segments of the rows of a line. -/
def segmentsOfRows (previous : Int) (r : Reference) :
    List Json → Except Fault (List Segment × Reference)
  | [] => .ok ([], r)
  | row :: rest => do
      let fields ← fieldsOf row
      let s ← segmentOfRow previous r fields
      let (segments, last) ← segmentsOfRows s.column (Mappings.after r s) rest
      return (s :: segments, last)

/-- The segments of lines, each of which lists rows of fields. -/
def segmentsOfLines (r : Reference) : List Json → Except Fault (List (List Segment))
  | [] => .ok []
  | line :: rest => do
      let rows ← elements line
      let (segments, next) ← segmentsOfRows 0 r rows
      let lines ← segmentsOfLines next rest
      return segments :: lines

/-- The lines of segments that a JSON array of arrays of arrays stands
    for. -/
def segmentsOfJson (lines : Json) : Except Fault (List (List Segment)) := do
  segmentsOfLines Mappings.start (← elements lines)

/-- A basic document without extensions. -/
structure Assembled where
  file : Json
  sources : List Json
  contents : Option (List Json)
  names : List Json
  mappings : Text

namespace Assembled

/-- The members of the document. -/
def members (a : Assembled) : List (Text × Json) :=
  [(Text.ofString "version", Json.int 3)]
    ++ (if a.file.isTruthy then [(Text.ofString "file", a.file)] else [])
    ++ [(Text.ofString "sources", Json.arr a.sources)]
    ++ (match a.contents with
        | none => []
        | some contents => [(Text.ofString "sourcesContent", Json.arr contents)])
    ++ [(Text.ofString "names", Json.arr a.names), (Text.ofString "mappings", Json.str a.mappings)]

/-- The document. -/
def toJson (a : Assembled) : Json := .obj a.members

end Assembled

/-- The embedded contents in the order of the sources, if any of them has
    one. -/
def contentsFor (contents : Json.Table Json) (sources : List Json) : Option (List Json) :=
  if sources.any fun s => (contents.get? s).isSome then
    some (sources.map fun s => (contents.get? s).getD .null)
  else none

/-- Assembles a document from mappings. -/
def assemble (origin : Mapping.Origin) (ms : List Mapping) (file : Json)
    (contents : Json.Table Json) : Except Fault Assembled := do
  let ordered ← Mapping.sort origin ms
  let placed ← placeAll 0 ordered
  let sources := sourceTable placed
  let names := nameTable placed
  let rows := placed.map fun p => (p.line, fieldRow sources names p)
  let lines := (rowLines rows (lineCount placed)).map fun line => Json.arr (line.map Json.arr)
  let segments ← segmentsOfLines Mappings.start lines
  return ⟨file, sources, contentsFor contents sources, names, Mappings.encode segments⟩

end HermesBundle.SourceMap
