import HermesBundle.Decimal.Double
import HermesBundle.Text.Entries

/-! # JSON values — documents and the scalars they are compared by

    Numbers without fraction and exponent are unbounded integers, all
    others are doubles.  The members of an object keep the order in which
    their names first occurred.

    Scalars of different kinds may be equal as dictionary keys: a number
    is the same key in every notation, and a truth value is the number 0
    or 1.  The comparison key makes that precise, and orders numbers
    exactly by value.  Arrays are ordered by the first items that
    differ. -/

namespace HermesBundle

/-- A JSON value. -/
inductive Json where
  | null
  | bool (b : Bool)
  | int (i : Int)
  | float (d : Double)
  | str (t : Text)
  | arr (items : List Json)
  | obj (members : List (Text × Json))

namespace Json

instance : Inhabited Json := ⟨.null⟩

instance : Coe Text Json := ⟨.str⟩

/-- A text value given by a string. -/
def string (s : String) : Json := .str (Text.ofString s)

/-- The member of an object; other values have none. -/
def get? (j : Json) (name : Text) : Option Json :=
  match j with
  | .obj members => Entries.find? members name
  | _ => none

/-- Whether a value is the null value. -/
def isNull : Json → Bool
  | .null => true
  | _ => false

/-- Whether a value counts as given: null, false, zero and everything
    empty do not. -/
def isTruthy : Json → Bool
  | .null => false
  | .bool b => b
  | .int i => i != 0
  | .float d => !d.isZero
  | .str t => !t.isEmpty
  | .arr items => !items.isEmpty
  | .obj members => !members.isEmpty

/-- The integer a value stands for in arithmetic: truth values count as 0
    and 1. -/
def toInt? : Json → Option Int
  | .int i => some i
  | .bool b => some (if b then 1 else 0)
  | _ => none

/-- The most digits an integer may have in a text. -/
def digitLimit : Nat := 4300

/-- Whether a number has no more than some digits. -/
def fitsDigits : Nat → Nat → Bool
  | 0, n => n == 0
  | digits + 1, n => if n < 10 then true else fitsDigits digits (n / 10)

/-- How many arrays and objects may stand inside each other in a text. -/
def depthLimit : Nat := 990

/-- What a scalar is compared by. -/
structure Key where
  /-- The kind, and for numbers whether they lie at an infinite end. -/
  rank : Nat
  /-- For finite numbers the value in units of the least positive double. -/
  units : Int
  /-- For texts the text. -/
  text : Text
deriving DecidableEq

namespace Key

/-- The key of an integer. -/
def ofInt (i : Int) : Key := ⟨2, i * (Double.unitScale : Int), []⟩

/-- The order of keys: by kind, then by value. -/
def less (a b : Key) : Bool :=
  a.rank < b.rank || (a.rank == b.rank &&
    (a.units < b.units || (a.units == b.units && Text.less a.text b.text)))

/-- Whether the key is that of a number. -/
def isNumber (k : Key) : Bool := 1 ≤ k.rank && k.rank ≤ 4

/-- Whether the key is that of a text. -/
def isText (k : Key) : Bool := k.rank == 5

end Key

/-- The comparison key of a scalar; arrays and objects have none. -/
def key? : Json → Option Key
  | .null => some ⟨0, 0, []⟩
  | .bool b => some (.ofInt (if b then 1 else 0))
  | .int i => some (.ofInt i)
  | .float .nan => some ⟨4, 0, []⟩
  | .float (.infinite negative) => some ⟨if negative then 1 else 3, 0, []⟩
  | .float (.finite negative mantissa scale) => some ⟨2, Double.units negative mantissa scale, []⟩
  | .str t => some ⟨5, 0, t⟩
  | .arr _ => none
  | .obj _ => none

/-- Whether a value can be a dictionary key. -/
def isScalar (j : Json) : Bool := j.key?.isSome

/-- The comparison key of a value; arrays and objects come last. -/
def key (j : Json) : Key := j.key?.getD ⟨6, 0, []⟩

/-- Whether two values are the same dictionary key. -/
def same : Json → Json → Bool
  | .int a, .int b => a == b
  | .str a, .str b => a == b
  | a, b => a.key == b.key

/-- Whether a value is a number other than the undefined one, so that it
    has an order to all its like. -/
def isMagnitude : Json → Bool
  | .bool _ => true
  | .int _ => true
  | .float .nan => false
  | .float _ => true
  | _ => false

/-- Whether a value is the undefined number. -/
def isUndefined : Json → Bool
  | .float .nan => true
  | _ => false

/-- Whether one scalar comes before another. -/
def less : Json → Json → Bool
  | .int a, .int b => a < b
  | a, b => a.key.less b.key

theorem same_eq_key (a b : Json) : same a b = (a.key == b.key) := by
  unfold same
  split
  · rename_i m n
    have hpos : (Double.unitScale : Int) ≠ 0 :=
      Int.natCast_ne_zero.mpr (Nat.ne_of_gt Double.unitScale_pos)
    rw [Bool.eq_iff_iff, beq_iff_eq, beq_iff_eq]
    show m = n ↔ Key.ofInt m = Key.ofInt n
    unfold Key.ofInt
    constructor
    · intro h
      rw [h]
    · intro h
      injection h with _ hu _
      exact Int.eq_of_mul_eq_mul_right hpos hu
  · rename_i s t
    rw [Bool.eq_iff_iff, beq_iff_eq, beq_iff_eq]
    show s = t ↔ (⟨5, 0, s⟩ : Key) = ⟨5, 0, t⟩
    constructor
    · intro h
      rw [h]
    · intro h
      injection h
  · rfl

mutual

/-- Whether two values are equal: arrays item by item, and objects member
    by member in whatever order. -/
def equals : Json → Json → Bool
  | .arr a, .arr b => equalItems a b
  | .obj a, .obj b => a.length == b.length && equalMembers a b
  | .arr _, _ => false
  | _, .arr _ => false
  | .obj _, _ => false
  | _, .obj _ => false
  | a, b => same a b

/-- Whether two lists of items are equal. -/
def equalItems : List Json → List Json → Bool
  | [], [] => true
  | x :: a, y :: b => equals x y && equalItems a b
  | _, _ => false

/-- Whether all members are found among others with equal values. -/
def equalMembers : List (Text × Json) → List (Text × Json) → Bool
  | [], _ => true
  | (name, value) :: rest, others =>
      match Entries.find? others name with
      | some other => equals value other && equalMembers rest others
      | none => false

end

mutual

/-- Whether one value comes before another, if they have an order: numbers
    by value, where the undefined one comes neither before nor after any
    other, texts by code points, and arrays by the first items that
    differ. -/
def comesBefore : Json → Json → Option Bool
  | .arr a, .arr b => itemsBefore a b
  | a, b =>
      if a.isMagnitude && b.isMagnitude then some (a.less b)
      else if a.key.isNumber && b.key.isNumber then some false
      else if a.key.isText && b.key.isText then some (a.less b)
      else none

/-- Whether one list of items comes before another; a list comes after
    those it starts with. -/
def itemsBefore : List Json → List Json → Option Bool
  | _, [] => some false
  | [], _ :: _ => some true
  | x :: a, y :: b => if x.equals y then itemsBefore a b else x.comesBefore y

end

/-- Dictionaries keyed by scalars, in order of first insertion. -/
abbrev Table (α : Type) := List (Json × α)

namespace Table

/-- The entry under a key. -/
def get? {α : Type} (table : Table α) (name : Json) : Option α :=
  match table with
  | [] => none
  | (key, value) :: rest => if key.same name then some value else get? rest name

/-- Adds an entry unless its key is there already. -/
def addNew {α : Type} (table : Table α) (name : Json) (value : α) : Table α :=
  if (get? table name).isSome then table else table ++ [(name, value)]

end Table

end Json

end HermesBundle
