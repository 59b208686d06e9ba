import HermesBundle.Shell.Records.Datum

/-! # Lookups — data under indices

    A lookup holds data under texts and integers, where an integer is the
    same index as its digits.  It is a table with a list of entries in each
    place, one table for texts and one for integers.  What was asked for
    last is the first one of its list, and who goes through all indices
    meets them in the order of the table of texts.  As long as only
    integers were used there is no table of texts, and what was divided
    into pieces is a mere sequence. -/

namespace HermesBundle.Shell.Records

/-- An index. -/
inductive Index where
  | integer (i : Int)
  | text (t : Octets)

/-- An entry of a lookup. -/
structure Entry where
  /-- The index as a text with its hash, once it was used as one. -/
  key : Option (Nat × Octets)
  integer : Option Int
  value : Datum

/-- The entries of a lookup with their tables. -/
structure LookupTable where
  /-- The entries by their numbers. -/
  entries : Array Entry
  /-- The numbers of the entries in each place, by texts. -/
  byText : Array (List Nat)
  byInteger : Array (List Nat)
  size : Nat
  hasTexts : Bool
  hasIntegers : Bool

/-- Data under indices. -/
inductive Lookup where
  | empty
  /-- Data under the integers from one on. -/
  | sequence (items : Array Datum)
  | table (t : LookupTable)

/-- The places of a new table. -/
def startingPlaces : Nat := 64

/-- How many entries a table takes for each of its places. -/
def entriesPerPlace : Nat := 12

/-- The hash of a text. -/
def hashOf (t : Octets) : Nat :=
  t.foldl (fun h c => (Nat.xor h c.toNat * 16777619) % 4294967296) 2166136261

namespace LookupTable

/-- A table without entries. -/
def start : LookupTable :=
  ⟨#[], Array.replicate startingPlaces [], Array.replicate startingPlaces [], 0, false, false⟩

/-- The number of places. -/
def places (t : LookupTable) : Nat := t.byText.size

/-- The place of an integer. -/
def placeOf (t : LookupTable) (i : Int) : Nat := (i % t.places).toNat

/-- Whether an entry has some hash and text. -/
def isAt (t : LookupTable) (hash : Nat) (text : Octets) (n : Nat) : Bool :=
  (t.entries[n]?.bind (·.key)).any fun (h, k) => h == hash && k == text

/-- Whether an entry has some integer. -/
def isOf (t : LookupTable) (i : Int) (n : Nat) : Bool := (t.entries[n]?.bind (·.integer)) == some i

/-- A list with one of its members at its front. -/
def toFront (n : Nat) (l : List Nat) : List Nat :=
  if l.head? == some n then l else n :: l.filter (· != n)

/-- The lists for twice as many places, where each member goes to one of
    two places and keeps its order. -/
def spread (place : Nat → Nat) (lists : Array (List Nat)) : Array (List Nat) :=
  let part := fun (i : Nat) => (lists[i % lists.size]?.getD []).filter fun n => place n == i
  (List.range (2 * lists.size)).map part |>.toArray

/-- A table with twice as many places. -/
def double (t : LookupTable) : LookupTable :=
  let places := 2 * t.places
  let textPlace := fun (n : Nat) => ((t.entries[n]?.bind (·.key)).map fun (h, _) => h % places).getD 0
  let integerPlace := fun (n : Nat) =>
    ((t.entries[n]?.bind (·.integer)).map fun (i : Int) => (i % (places : Int)).toNat).getD 0
  { t with byText := spread textPlace t.byText, byInteger := spread integerPlace t.byInteger }

/-- Adds an entry that is in no list yet; its number is returned. -/
def add (t : LookupTable) (e : Entry) : Nat × LookupTable :=
  let n := t.entries.size
  let t := { t with entries := t.entries.push e, size := t.size + 1 }
  (n, if t.places * entriesPerPlace < t.size then t.double else t)

/-- Puts an entry at the front of its list of texts. -/
def frontText (t : LookupTable) (hash n : Nat) : LookupTable :=
  { t with byText := t.byText.modify (hash % t.places) (toFront n) }

/-- Puts an entry at the front of its list of integers. -/
def frontInteger (t : LookupTable) (i : Int) (n : Nat) : LookupTable :=
  { t with byInteger := t.byInteger.modify (t.placeOf i) (toFront n) }

/-- Gives every entry a text. -/
def withTexts (t : LookupTable) : LookupTable :=
  if t.hasTexts then t
  else
    let order := t.byInteger.toList.flatten
    let t := order.foldl
      (fun t n =>
        match t.entries[n]? with
        | some ⟨none, some i, _⟩ =>
            let text := signedDecimal i
            let hash := hashOf text
            let t := { t with entries := t.entries.modify n fun e => { e with key := some (hash, text) } }
            t.frontText hash n
        | _ => t)
      t
    { t with hasTexts := true }

/-- The number of the entry under a text, which can be made for it. -/
def findText (t : LookupTable) (makes : Bool) (text : Octets) : Option Nat × LookupTable :=
  let t := t.withTexts
  let hash := hashOf text
  match (t.byText[hash % t.places]?.getD []).find? (t.isAt hash text) with
  | some n => (some n, t.frontText hash n)
  | none =>
      if makes then
        let (n, t) := t.add ⟨some (hash, text), none, .unset⟩
        (some n, t.frontText hash n)
      else (none, t)

/-- The number of the entry under an integer, which can be made for it. -/
def findInteger (t : LookupTable) (makes : Bool) (i : Int) : Option Nat × LookupTable :=
  match (t.byInteger[t.placeOf i]?.getD []).find? (t.isOf i) with
  | some n => (some n, t.frontInteger i n)
  | none =>
      let (found, t) :=
        if t.hasTexts then t.findText makes (signedDecimal i)
        else if makes then
          let (n, t) := t.add ⟨none, none, .unset⟩
          (some n, t)
        else (none, t)
      match found with
      | none => (none, t)
      | some n =>
          let t := { t with
            hasIntegers := true
            entries := t.entries.modify n fun e => { e with integer := some i } }
          (some n, t.frontInteger i n)

/-- Removes an entry. -/
def drop (t : LookupTable) (n : Nat) : LookupTable :=
  match t.entries[n]? with
  | none => t
  | some e =>
      let without := fun (l : List Nat) => l.filter (· != n)
      let t := match e.key with
        | some (hash, _) => { t with byText := t.byText.modify (hash % t.places) without }
        | none => t
      let t := match e.integer with
        | some i => { t with byInteger := t.byInteger.modify (t.placeOf i) without }
        | none => t
      { t with size := t.size - 1 }

end LookupTable

namespace Lookup

/-- How many data there are. -/
def size : Lookup → Nat
  | .empty => 0
  | .sequence items => items.size
  | .table t => t.size

/-- A lookup as a table. -/
def toTable : Lookup → LookupTable
  | .empty => .start
  | .table t => t
  | .sequence items =>
      items.foldl
        (fun t d =>
          let i : Int := t.entries.size + 1
          let (n, t) := t.add ⟨none, some i, d⟩
          { t.frontInteger i n with hasIntegers := true })
        .start

/-- The number of the entry under an index in a table. -/
def findIn (t : LookupTable) (makes : Bool) : Index → Option Nat × LookupTable
  | .integer i => t.findInteger makes i
  | .text s => t.findText makes s

/-- The place of an integer in a sequence. -/
def sequencePlace (items : Array Datum) : Index → Option Nat
  | .integer i => if 1 ≤ i && i ≤ items.size then some (i - 1).toNat else none
  | .text _ => none

/-- The datum under an index, which is there afterwards. -/
def get (l : Lookup) (i : Index) : Datum × Lookup :=
  let ask := fun (t : LookupTable) =>
    match findIn t true i with
    | (some n, t) => (((t.entries[n]?).map (·.value)).getD .unset, Lookup.table t)
    | (none, t) => (.unset, .table t)
  match l with
  | .sequence items =>
      match sequencePlace items i with
      | some n => (items[n]?.getD .unset, .sequence items)
      | none => ask (toTable (.sequence items))
  | l => ask l.toTable

/-- Sets the datum under an index. -/
def set (l : Lookup) (i : Index) (d : Datum) : Lookup :=
  let put := fun (t : LookupTable) =>
    match findIn t true i with
    | (some n, t) => Lookup.table { t with entries := t.entries.modify n fun e => { e with value := d } }
    | (none, t) => .table t
  match l with
  | .sequence items =>
      match sequencePlace items i with
      | some n => .sequence (items.modify n fun _ => d)
      | none => put (toTable (.sequence items))
  | l => put l.toTable

/-- Whether there is a datum under an index. -/
def contains (l : Lookup) (i : Index) : Bool × Lookup :=
  match l with
  | .empty => (false, .empty)
  | .sequence items =>
      match i with
      | .integer _ => ((sequencePlace items i).isSome, .sequence items)
      | .text _ =>
          let (n, t) := findIn (toTable (.sequence items)) false i
          (n.isSome, .table t)
  | .table t =>
      let (n, t) := findIn t false i
      (n.isSome, .table t)

/-- Removes the datum under an index. -/
def erase (l : Lookup) (i : Index) : Lookup :=
  let remove := fun (t : LookupTable) =>
    match findIn t false i with
    | (some n, t) =>
        let t := t.drop n
        if t.size = 0 then Lookup.empty else .table t
    | (none, t) => .table t
  match l with
  | .empty => .empty
  | .table t => remove t
  | .sequence items =>
      match i, sequencePlace items i with
      | .integer _, none => .sequence items
      | _, _ => remove (toTable (.sequence items))

/-- All indices in their order. -/
def indices (l : Lookup) : List Octets × Lookup :=
  match l with
  | .empty => ([], .empty)
  | l =>
      let t := l.toTable.withTexts
      let order := t.byText.toList.flatten
      (order.filterMap fun n => (t.entries[n]?.bind (·.key)).map (·.2), .table t)

end Lookup

end HermesBundle.Shell.Records
