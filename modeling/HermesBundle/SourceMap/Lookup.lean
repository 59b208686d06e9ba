import HermesBundle.SourceMap.Mapping

/-! # Lookup — the source position of a generated one

    Of the mappings on the line of the query, the last one that does not
    start after the query's column answers it.  A mapping without a
    source that wins in this way answers with nothing: it hides the
    mappings before it. -/

namespace HermesBundle.SourceMap

/-- The mappings of each generated line, in the order of their columns;
    mappings with equal columns keep their order. -/
abbrev LineIndex := Json.Table (List Mapping)

/-- Whether the columns of all mappings are plain numbers. -/
def havePlainColumns (ms : List Mapping) : Bool := ms.all (·.column.isMagnitude)

/-- Mappings of one line in the order of their columns. -/
def sortedColumns (ms : List Mapping) : List Mapping :=
  ms.mergeSort fun a b => !b.column.less a.column

/-- Mappings of one line in the order of their columns, if these can be
    compared. -/
def sortColumns (ms : List Mapping) : Except Fault (List Mapping) :=
  if havePlainColumns ms then .ok (sortedColumns ms)
  else
    match Ordering.sort (fun a b => a.column.comesBefore b.column) ms with
    | some sorted => .ok sorted
    | none => .error (.misuse .unsuitedKind)

/-- The generated lines that occur, in the order of first occurrence. -/
def linesOf : List Mapping → List Json
  | [] => []
  | m :: rest => m.line :: (linesOf rest).filter fun line => !m.line.same line

/-- The mappings on a line. -/
def onLine (ms : List Mapping) (line : Json) : List Mapping :=
  ms.filter fun m => m.line.same line

namespace LineIndex

/-- Indexes mappings by line and column. -/
def ofMappings (ms : List Mapping) : Except Fault LineIndex :=
  if ms.all (·.line.isScalar) then
    (linesOf ms).mapM fun line => do
      let group ← sortColumns (onLine ms line)
      return (line, group)
  else .error (.misuse .unsuitedKind)

/-- The last mapping of an ordered line that does not start after a
    column, all columns being plain. -/
def lastNotAfter (column : Json) (ms : List Mapping) : Option Mapping :=
  (ms.takeWhile fun m => !column.less m.column).getLast?

/-- The last mapping of an ordered line that does not start after a
    column, if the two can be compared.  Columns that are not plain are
    searched by halves. -/
def lastBefore (column : Json) (ms : List Mapping) : Except Fault (Option Mapping) :=
  if column.isMagnitude && havePlainColumns ms then .ok (lastNotAfter column ms)
  else
    let isNotAfter := fun m : Mapping => Ordering.opposite (column.comesBefore m.column)
    match Ordering.countLeading isNotAfter ms.toArray with
    | some n => .ok (ms.take n).getLast?
    | none => .error (.misuse .unsuitedKind)

/-- The mapping that answers a query, if it has a source. -/
def sourcePosition (index : LineIndex) (line column : Json) : Except Fault (Option Mapping) :=
  if line.isScalar then
    match Json.Table.get? index line with
    | none => .ok none
    | some ms => do
        let hit ← lastBefore column ms
        return hit.filter fun m => !m.source.isNull
  else .error (.misuse .unsuitedKind)

end LineIndex

/-- The source position of a generated one, among some mappings. -/
def sourcePosition (ms : List Mapping) (line column : Json) : Except Fault (Option Mapping) := do
  let index ← LineIndex.ofMappings ms
  index.sourcePosition line column

end HermesBundle.SourceMap
