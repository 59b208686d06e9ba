import HermesBundle.Ordering.RunMerge
import HermesBundle.SourceMap.Fault

/-! # Mappings — one generated position and where it came from

    A mapping is a record of JSON values, for a document may give any
    value as a source or a name, and sections may shift positions by
    fractions.  A member that is missing is the null value.  Mappings are
    put in order by a stable sort; where positions are not plain numbers,
    which ones are compared decides the outcome.

    The undefined number equals itself only where it is one value that was
    given several times.  The lines of a document are computed, each for
    itself, and of those no two undefined ones are equal. -/

namespace HermesBundle.SourceMap

/-- A generated position and, if they are known, the position in a source
    and the name there.  Lines and columns count from 0. -/
structure Mapping where
  line : Json
  column : Json
  source : Json
  sourceLine : Json
  sourceColumn : Json
  name : Json

namespace Mapping

instance : Inhabited Mapping := ⟨⟨.null, .null, .null, .null, .null, .null⟩⟩

/-- A mapping that has a generated position only. -/
def bare (line column : Json) : Mapping := ⟨line, column, .null, .null, .null, .null⟩

/-- Whether the mapping leads to a place in a source. -/
def isLocated (m : Mapping) : Bool :=
  !m.source.isNull && !m.sourceLine.isNull && !m.sourceColumn.isNull

/-- The values of a mapping in the order in which they are listed. -/
def toList (m : Mapping) : List Json :=
  [m.line, m.column, m.source, m.sourceLine, m.sourceColumn, m.name]

/-- The mapping of a list of two to six values; missing ones are null. -/
def ofList? : List Json → Option Mapping
  | [line, column] => some (bare line column)
  | [line, column, source] => some ⟨line, column, source, .null, .null, .null⟩
  | [line, column, source, l] => some ⟨line, column, source, l, .null, .null⟩
  | [line, column, source, l, c] => some ⟨line, column, source, l, c, .null⟩
  | [line, column, source, l, c, name] => some ⟨line, column, source, l, c, name⟩
  | _ => none

/-- Whether the generated position consists of numbers that can be put in
    order. -/
def hasPlainPosition (m : Mapping) : Bool := m.line.isMagnitude && m.column.isMagnitude

/-- Whether one mapping has the earlier generated position, both being
    plain. -/
def before (a b : Mapping) : Bool :=
  if a.line.same b.line then a.column.less b.column else a.line.less b.line

/-- How the lines of mappings came about. -/
inductive Origin where
  /-- They were given as they are. -/
  | given
  /-- They were computed from those of a document. -/
  | computed
deriving DecidableEq

/-- Whether two mappings are on one line. -/
def shareLine (origin : Origin) (a b : Mapping) : Bool :=
  a.line.equals b.line && !(origin = .computed && a.line.isUndefined)

/-- Whether one mapping has the earlier generated position, if the two can
    be compared. -/
def comesBefore (origin : Origin) (a b : Mapping) : Option Bool :=
  if shareLine origin a b then
    if a.column.equals b.column then some false else a.column.comesBefore b.column
  else a.line.comesBefore b.line

/-- Mappings in the order of their generated positions; those with equal
    positions keep their order. -/
def sorted (ms : List Mapping) : List Mapping := ms.mergeSort fun a b => !before b a

/-- Mappings in the order of their generated positions.  Positions that
    are not plain may not be comparable. -/
def sort (origin : Origin) (ms : List Mapping) : Except Fault (List Mapping) :=
  if ms.all hasPlainPosition then .ok (sorted ms)
  else
    match Ordering.sort (comesBefore origin) ms with
    | some sorted => .ok sorted
    | none => .error (.misuse .unsuitedKind)

end Mapping

end HermesBundle.SourceMap
