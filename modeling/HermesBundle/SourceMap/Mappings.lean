import HermesBundle.SourceMap.Vlq

/-! # The mappings text — segments of all generated lines

    Lines are set apart by semicolons and their segments by commas.  A
    segment has one field, the column, or four with a place in a source,
    or five with a name as well.  Columns are written as the difference
    to the previous segment of the line; the other fields as the
    difference to the previous segment that had them, across lines. -/

namespace HermesBundle.SourceMap

/-- The place in a source a segment refers to; source and name are
    indices into the tables of the document. -/
structure Origin where
  source : Int
  line : Int
  column : Int
  name : Option Int
deriving DecidableEq

/-- One segment of a generated line. -/
structure Segment where
  column : Int
  origin : Option Origin
deriving DecidableEq

namespace Segment

/-- The fields of a segment. -/
def fields (s : Segment) : List Int :=
  match s.origin with
  | none => [s.column]
  | some o => [s.column, o.source, o.line, o.column] ++ o.name.toList

end Segment

/-- The fields that differences are taken against. -/
structure Reference where
  source : Int
  line : Int
  column : Int
  name : Int
deriving DecidableEq

namespace Mappings

/-- All references start at zero. -/
def start : Reference := ⟨0, 0, 0, 0⟩

/-- The references after an origin. -/
def advance (r : Reference) (o : Origin) : Reference :=
  ⟨o.source, o.line, o.column, o.name.getD r.name⟩

/-- The references after a segment. -/
def after (r : Reference) (s : Segment) : Reference :=
  match s.origin with
  | none => r
  | some o => advance r o

/-- The text of one segment, relative to the previous column of the line
    and to the references. -/
def encodeSegment (previous : Int) (r : Reference) (s : Segment) : Text :=
  Vlq.encode (s.column - previous) ++
    match s.origin with
    | none => []
    | some o =>
        Vlq.encode (o.source - r.source) ++ Vlq.encode (o.line - r.line)
          ++ Vlq.encode (o.column - r.column)
          ++ match o.name with
            | none => []
            | some n => Vlq.encode (n - r.name)

/-- The texts of the segments of a line. -/
def encodeLine (previous : Int) (r : Reference) : List Segment → List Text
  | [] => []
  | s :: rest => encodeSegment previous r s :: encodeLine s.column (after r s) rest

/-- The texts of the lines. -/
def encodeLines (r : Reference) : List (List Segment) → List Text
  | [] => []
  | line :: rest =>
      Text.join "," (encodeLine 0 r line) :: encodeLines (line.foldl after r) rest

/-- The mappings text of a list of lines. -/
def encode (lines : List (List Segment)) : Text := Text.join ";" (encodeLines start lines)

/-- The segment with the given differences. -/
def segmentOf? (previous : Int) (r : Reference) : List Int → Option Segment
  | [column] => some ⟨previous + column, none⟩
  | [column, source, line, sourceColumn] =>
      some ⟨previous + column,
        some ⟨r.source + source, r.line + line, r.column + sourceColumn, none⟩⟩
  | [column, source, line, sourceColumn, name] =>
      some ⟨previous + column,
        some ⟨r.source + source, r.line + line, r.column + sourceColumn, some (r.name + name)⟩⟩
  | _ => none

/-- Reads the pieces of a line; empty pieces hold nothing. -/
def decodeLine (previous : Int) (r : Reference) :
    List Text → Except Fault (List Segment × Reference)
  | [] => .ok ([], r)
  | piece :: rest =>
      if piece.isEmpty then decodeLine previous r rest
      else
        match Vlq.decode piece with
        | .error e => .error e
        | .ok fields =>
            match segmentOf? previous r fields with
            | none => .error (.fieldCount piece fields.length)
            | some s =>
                match decodeLine s.column (after r s) rest with
                | .error e => .error e
                | .ok (segments, last) => .ok (s :: segments, last)

/-- Reads the texts of the lines. -/
def decodeLines (r : Reference) : List Text → Except Fault (List (List Segment))
  | [] => .ok []
  | line :: rest =>
      match decodeLine 0 r (line.splitOn ',') with
      | .error e => .error e
      | .ok (segments, next) =>
          match decodeLines next rest with
          | .error e => .error e
          | .ok lines => .ok (segments :: lines)

/-- The lines of a mappings text. -/
def decode (text : Text) : Except Fault (List (List Segment)) :=
  decodeLines start (text.splitOn ';')

end Mappings

end HermesBundle.SourceMap
