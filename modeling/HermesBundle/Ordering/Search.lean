/-! # Searching a row — where a condition ceases to hold

    Elements of a row are asked one by one whether they meet a condition;
    a question may have no answer, which ends the search.  Where the
    elements that meet it come first, the result is their number.  On any
    other row the result depends on which elements are asked, and that is
    fixed here: the middle one of what is left, time after time. -/

namespace HermesBundle.Ordering

/-- Halves the places from `low` to `high` until one is left.  Of two
    middle elements the second is asked, or the first if the row is seen
    from its end. -/
def narrow {α : Type} (fromEnd : Bool) (meets : α → Option Bool) (row : Array α)
    (low high : Nat) : Option Nat :=
  if low < high then
    let middle := low + (high - low - if fromEnd then 1 else 0) / 2
    match row[middle]? with
    | none => some high
    | some x =>
        match meets x with
        | none => none
        | some true => narrow fromEnd meets row (middle + 1) high
        | some false => narrow fromEnd meets row low middle
  else some high
termination_by high - low
decreasing_by all_goals (cases fromEnd <;> simp_all <;> omega)

/-- How many elements at the start of a row meet a condition. -/
def countLeading {α : Type} (meets : α → Option Bool) (row : Array α) : Option Nat :=
  narrow false meets row 0 row.size

/-- Asks at growing distances from the start, from `next` on, until an
    element fails.  The result is the last place that met the condition
    and the first one that is known or supposed not to. -/
def stride {α : Type} (meets : α → Option Bool) (row : Array α) :
    Nat → Nat → Nat → Option (Nat × Nat)
  | 0, last, next => some (last, min next row.size)
  | fuel + 1, last, next =>
      match row[next]? with
      | none => some (last, row.size)
      | some x =>
          match meets x with
          | none => none
          | some true => stride meets row fuel next (2 * next + 1)
          | some false => some (last, next)

/-- How many elements at the start of a row meet a condition, when few of
    them are expected to. -/
def gallop {α : Type} (fromEnd : Bool) (meets : α → Option Bool) (row : Array α) : Option Nat :=
  match row[0]? with
  | none => some 0
  | some x =>
      match meets x with
      | none => none
      | some false => some 0
      | some true =>
          match stride meets row row.size 0 1 with
          | none => none
          | some (last, high) => narrow fromEnd meets row (last + 1) high

end HermesBundle.Ordering
