import HermesBundle.Decimal.Shortest
import HermesBundle.Json.Value
import HermesBundle.Text.Quoted

/-! # Writing JSON — values as documents and as messages

    Documents are plain ASCII: every other code point is escaped, above
    the basic plane as a pair of surrogates.  Messages show a value with
    quoted texts and the words `None`, `True` and `False`.  Neither is had
    of a value beyond the limits on digits and on nesting. -/

namespace HermesBundle.Json

/-- Doubles in documents. -/
def numberLayout : DoubleLayout :=
  { smallest := -4, largest := 16, exponentDigits := 2, nan := "NaN", infinity := "Infinity" }

/-- Doubles in messages. -/
def displayLayout : DoubleLayout :=
  { smallest := -4, largest := 16, exponentDigits := 2, nan := "nan", infinity := "inf" }

/-- A sixteen-bit unit as an escape. -/
def unitEscape (n : Nat) : Text := Text.ofString "\\u" ++ Text.hex 4 n

/-- A code point inside a written string. -/
def writePoint (c : CodePoint) : Text :=
  if c.val = 0x22 then "\\\x22"
  else if c.val = 0x5C then "\\\\"
  else if c.val = 0x0A then "\\n"
  else if c.val = 0x0D then "\\r"
  else if c.val = 0x09 then "\\t"
  else if c.val = 0x08 then "\\b"
  else if c.val = 0x0C then "\\f"
  else if 0x20 ≤ c.val && c.val ≤ 0x7E then [c]
  else if c.val < 0x10000 then unitEscape c.val
  else
    unitEscape (0xD800 + (c.val - 0x10000) / 0x400)
      ++ unitEscape (0xDC00 + (c.val - 0x10000) % 0x400)

/-- A written string. -/
def writeString (t : Text) : Text :=
  let quote : Text := [.ofNat 0x22]
  quote ++ t.flatMap writePoint ++ quote

/-- How the parts of a document are set apart. -/
structure Layout where
  betweenItems : String
  afterName : String
  /-- Spaces per level of nesting, each item on a line of its own; none
      for a single line. -/
  indent : Option Nat

/-- Without any space. -/
def compact : Layout := ⟨",", ":", none⟩

/-- On one line, with a space after commas and colons. -/
def spaced : Layout := ⟨", ", ": ", none⟩

/-- On several lines, indented by two. -/
def indented : Layout := ⟨",", ": ", some 2⟩

/-- The line break before an item at some depth. -/
def Layout.break (layout : Layout) (depth : Nat) : Text :=
  match layout.indent with
  | none => []
  | some width => Text.ofString "\n" ++ List.replicate (width * depth) (.ofChar ' ')

mutual

/-- A value as a document. -/
def write (layout : Layout) (depth : Nat) : Json → Text
  | .null => "null"
  | .bool true => "true"
  | .bool false => "false"
  | .int i => Text.ofInt i
  | .float d => numberLayout.render d
  | .str t => writeString t
  | .arr [] => "[]"
  | .arr (item :: rest) =>
      Text.ofString "[" ++ layout.break (depth + 1) ++ write layout (depth + 1) item
        ++ writeItems layout (depth + 1) rest ++ layout.break depth ++ Text.ofString "]"
  | .obj [] => [.ofNat 0x7B, .ofNat 0x7D]
  | .obj ((name, value) :: rest) =>
      [.ofNat 0x7B] ++ layout.break (depth + 1) ++ writeString name
        ++ Text.ofString layout.afterName ++ write layout (depth + 1) value
        ++ writeMembers layout (depth + 1) rest ++ layout.break depth ++ [.ofNat 0x7D]

/-- The items after the first one. -/
def writeItems (layout : Layout) (depth : Nat) : List Json → Text
  | [] => []
  | item :: rest =>
      Text.ofString layout.betweenItems ++ layout.break depth ++ write layout depth item
        ++ writeItems layout depth rest

/-- The members after the first one. -/
def writeMembers (layout : Layout) (depth : Nat) : List (Text × Json) → Text
  | [] => []
  | (name, value) :: rest =>
      Text.ofString layout.betweenItems ++ layout.break depth ++ writeString name
        ++ Text.ofString layout.afterName ++ write layout depth value
        ++ writeMembers layout depth rest

end

/-- A document in a layout. -/
def render (layout : Layout) (j : Json) : Text := write layout 0 j

/-- Why a value has no text: an integer has more digits than are converted,
    or values are nested deeper than are followed. -/
inductive WriteError where
  | tooManyDigits
  | tooDeep
deriving DecidableEq

/-- The wording of a failure. -/
def WriteError.message : WriteError → Text
  | .tooManyDigits =>
      Text.ofString "Exceeds the limit (" ++ Text.ofNat digitLimit
        ++ Text.ofString " digits) for integer string conversion; "
        ++ Text.ofString "use sys.set_int_max_str_digits() to increase the limit"
  | .tooDeep => "maximum recursion depth exceeded"

mutual

/-- The first limit that is met when a value is turned into a text, if one
    is met.  The room is how many more arrays and objects may be opened. -/
def excess? (room : Nat) : Json → Option WriteError
  | .int i => if fitsDigits digitLimit i.natAbs then none else some .tooManyDigits
  | .arr items =>
      match room with
      | 0 => some .tooDeep
      | room + 1 => itemsExcess? room items
  | .obj members =>
      match room with
      | 0 => some .tooDeep
      | room + 1 => membersExcess? room members
  | _ => none

/-- The first limit that is met in the items of an array. -/
def itemsExcess? (room : Nat) : List Json → Option WriteError
  | [] => none
  | item :: rest => (excess? room item).or (itemsExcess? room rest)

/-- The first limit that is met in the members of an object. -/
def membersExcess? (room : Nat) : List (Text × Json) → Option WriteError
  | [] => none
  | (_, value) :: rest => (excess? room value).or (membersExcess? room rest)

end

/-- A document in a layout, unless the value has no text. -/
def dump (layout : Layout) (j : Json) : Except WriteError Text :=
  match j.excess? depthLimit with
  | none => .ok (render layout j)
  | some e => .error e

theorem dump_eq_ok_iff {layout : Layout} {j : Json} {t : Text} :
    dump layout j = .ok t ↔ j.excess? depthLimit = none ∧ render layout j = t := by
  unfold dump
  split
  · rename_i hnone
    rw [hnone, Except.ok.injEq, eq_self_iff_true, true_and]
  · rename_i hsome
    rw [hsome]
    exact ⟨fun h => (nomatch h), fun h => nomatch h.1⟩

theorem dump_eq_error_iff {layout : Layout} {j : Json} {e : WriteError} :
    dump layout j = .error e ↔ j.excess? depthLimit = some e := by
  unfold dump
  split
  · rename_i hnone
    rw [hnone]
    exact ⟨fun h => (nomatch h), fun h => nomatch h⟩
  · rename_i hsome
    rw [hsome, Except.error.injEq, Option.some.injEq]

mutual

/-- A value as messages show it. -/
def display : Json → Text
  | .null => "None"
  | .bool true => "True"
  | .bool false => "False"
  | .int i => Text.ofInt i
  | .float d => displayLayout.render d
  | .str t => t.quoted
  | .arr items => Text.ofString "[" ++ displayItems items ++ Text.ofString "]"
  | .obj members => [.ofNat 0x7B] ++ displayMembers members ++ [.ofNat 0x7D]

/-- The items of an array, set apart by commas. -/
def displayItems : List Json → Text
  | [] => []
  | [item] => display item
  | item :: rest => display item ++ Text.ofString ", " ++ displayItems rest

/-- The members of an object, set apart by commas. -/
def displayMembers : List (Text × Json) → Text
  | [] => []
  | [(name, value)] => name.quoted ++ Text.ofString ": " ++ display value
  | (name, value) :: rest =>
      name.quoted ++ Text.ofString ": " ++ display value ++ Text.ofString ", "
        ++ displayMembers rest

end

end HermesBundle.Json
