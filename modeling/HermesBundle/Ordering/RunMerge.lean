import HermesBundle.Ordering.Search

/-! # Run merge — a stable sort of which every comparison counts

    The row is cut into runs that are in order already, short runs are
    filled up by insertion, and neighbouring runs are merged.  For a
    comparison that orders all elements the result is the stable sort of
    the row, whatever is compared with what.  Elements may also have no
    order, which ends the sort, or contradict one another; then the result
    shows which comparisons were made, and they are fixed here. -/

namespace HermesBundle.Ordering

/-- Whether the first of two elements comes before the second, if they can
    be compared. -/
abbrev Comparison (α : Type) := α → α → Option Bool

/-- The opposite of an answer. -/
def opposite (answer : Option Bool) : Option Bool := answer.map (!·)

/-! ## Runs -/

/-- Extends a run, given in reverse, as long as the next element stands to
    the last one as it does in the run. -/
def extendRun {α : Type} (before : Comparison α) (falling : Bool) (last : α) (run : List α) :
    List α → Option (List α × List α)
  | [] => some (run, [])
  | x :: rest =>
      match before x last with
      | none => none
      | some answer =>
          if answer == falling then extendRun before falling x (x :: run) rest
          else some (run, x :: rest)

/-- The run a row starts with, put in rising order, and what follows it.
    A falling run falls strictly, so that equal elements keep their
    order. -/
def takeRun {α : Type} (before : Comparison α) : List α → Option (List α × List α)
  | [] => some ([], [])
  | [x] => some ([x], [])
  | x :: y :: rest =>
      match before y x with
      | none => none
      | some falling =>
          match extendRun before falling y [y, x] rest with
          | none => none
          | some (run, left) => some (if falling then run else run.reverse, left)

/-- Inserts elements into a run one after another, each behind those that
    do not come after it. -/
def insertAll {α : Type} (before : Comparison α) (run : List α) : List α → Option (List α)
  | [] => some run
  | x :: rest =>
      match countLeading (fun y => opposite (before x y)) run.toArray with
      | none => none
      | some n => insertAll before (run.take n ++ x :: run.drop n) rest

/-- The least length of runs of a row with `n` elements. -/
def leastRun (n : Nat) : Nat := reduce n n 0
where
  reduce : Nat → Nat → Nat → Nat
    | 0, n, odd => n + odd
    | fuel + 1, n, odd => if n < 64 then n + odd else reduce fuel (n / 2) (max odd (n % 2))

/-! ## Merging two runs -/

/-- How often one side has to win in a row before it is searched at
    growing distances. -/
def winsToGallop : Nat := 7

/-- Two runs while they are merged: what is left of each, and what has
    been put out, in reverse. -/
structure Merging (α : Type) where
  left : List α
  right : List α
  out : List α

namespace Merging

/-- Whether the merge is decided: one element of the left run comes after
    everything on the right, or one of the runs is used up. -/
def isDecided {α : Type} (m : Merging α) : Bool :=
  match m.left, m.right with
  | [], _ => true
  | [_], _ => true
  | _, [] => true
  | _, _ => false

/-- The merged run of a merge that is decided. -/
def finish {α : Type} (m : Merging α) : List α := m.out.reverse ++ m.right ++ m.left

/-- Puts out elements of the left run. -/
def takeLeft {α : Type} (m : Merging α) (n : Nat) : Merging α :=
  ⟨m.left.drop n, m.right, (m.left.take n).reverse ++ m.out⟩

/-- Puts out elements of the right run. -/
def takeRight {α : Type} (m : Merging α) (n : Nat) : Merging α :=
  ⟨m.left, m.right.drop n, (m.right.take n).reverse ++ m.out⟩

/-- Puts out what comes before the next element on the right, and then
    that element.  The result tells how much came before it. -/
def gallopLeft {α : Type} (fromEnd : Bool) (rightFirst : Comparison α) (m : Merging α) :
    Option (Merging α × Nat) :=
  match m.right with
  | [] => some (m, 0)
  | r :: _ =>
      match gallop fromEnd (fun x => opposite (rightFirst x r)) m.left.toArray with
      | none => none
      | some n =>
          let after := m.takeLeft n
          some (if after.isDecided then after else after.takeRight 1, n)

/-- Puts out what comes before the next element on the left, and then that
    element. -/
def gallopRight {α : Type} (fromEnd : Bool) (rightFirst : Comparison α) (m : Merging α) :
    Option (Merging α × Nat) :=
  match m.left with
  | [] => some (m, 0)
  | l :: _ =>
      match gallop fromEnd (rightFirst l) m.right.toArray with
      | none => none
      | some n =>
          let after := m.takeRight n
          some (if after.isDecided then after else after.takeLeft 1, n)

/-- Both sides are searched once, in the order that the direction gives. -/
def gallopBoth {α : Type} (fromEnd : Bool) (rightFirst : Comparison α) (m : Merging α) :
    Option (Merging α × Nat) :=
  let (first, second) :=
    if fromEnd then (gallopRight fromEnd rightFirst, gallopLeft fromEnd rightFirst)
    else (gallopLeft fromEnd rightFirst, gallopRight fromEnd rightFirst)
  match first m with
  | none => none
  | some (m, n) =>
      if m.isDecided then some (m, n)
      else
        match second m with
        | none => none
        | some (m, k) => some (m, max n k)

end Merging

/-- How a merge proceeds. -/
inductive Pace where
  /-- Element by element; so many times in a row has each side won. -/
  | stepping (lefts rights : Nat)
  /-- By searching; whether it has done so before. -/
  | galloping (again : Bool)

/-- Merges what is left of two runs.  `threshold` is how often a side has
    to win before it is searched; it changes with the success of
    searching, and outlasts the merge. -/
def mergeOn {α : Type} (fromEnd : Bool) (rightFirst : Comparison α) :
    Nat → Pace → Nat → Merging α → Option (List α × Nat)
  | 0, _, threshold, m => some (m.finish, threshold)
  | fuel + 1, pace, threshold, m =>
      if m.isDecided then some (m.finish, threshold)
      else
        match pace with
        | .stepping lefts rights =>
            match m.left.head?, m.right.head? with
            | some l, some r =>
                match rightFirst l r with
                | none => none
                | some true =>
                    let pace :=
                      if rights + 1 < threshold then .stepping 0 (rights + 1)
                      else .galloping false
                    mergeOn fromEnd rightFirst fuel pace threshold (m.takeRight 1)
                | some false =>
                    let pace :=
                      if lefts + 1 < threshold then .stepping (lefts + 1) 0
                      else .galloping false
                    mergeOn fromEnd rightFirst fuel pace threshold (m.takeLeft 1)
            | _, _ => some (m.finish, threshold)
        | .galloping again =>
            let threshold := if again && 1 < threshold then threshold - 1 else threshold
            match m.gallopBoth fromEnd rightFirst with
            | none => none
            | some (m, won) =>
                if m.isDecided then some (m.finish, threshold)
                else if winsToGallop ≤ won then
                  mergeOn fromEnd rightFirst fuel (.galloping true) threshold m
                else mergeOn fromEnd rightFirst fuel (.stepping 0 0) (threshold + 1) m

/-- Merges two runs that follow one another.  What is in its place already
    stays there; of the rest the shorter side decides from which end the
    merge starts, and the first element from the other side goes ahead. -/
def mergeRuns {α : Type} (before : Comparison α) (threshold : Nat) (first second : List α) :
    Option (List α × Nat) :=
  match second, first.getLast? with
  | s :: _, some f =>
      match gallop false (fun x => opposite (before s x)) first.toArray with
      | none => none
      | some ahead =>
          let a := first.drop ahead
          if a.isEmpty then some (first ++ second, threshold)
          else
            match gallop true (fun x => opposite (before x f)) second.reverse.toArray with
            | none => none
            | some behind =>
                let b := second.take (second.length - behind)
                let around := fun (merged : List α) =>
                  first.take ahead ++ merged ++ second.drop (second.length - behind)
                let fuel := first.length + second.length + 1
                if b.isEmpty then some (first ++ second, threshold)
                else if a.length ≤ b.length then
                  match mergeOn false (fun l r => before r l) fuel (.stepping 0 0) threshold
                      ((Merging.mk a b []).takeRight 1) with
                  | none => none
                  | some (merged, threshold) => some (around merged, threshold)
                else
                  match mergeOn true before fuel (.stepping 0 0) threshold
                      ((Merging.mk b.reverse a.reverse []).takeRight 1) with
                  | none => none
                  | some (merged, threshold) => some (around merged.reverse, threshold)
  | _, _ => some (first ++ second, threshold)

/-! ## Merging all runs -/

/-- A run that waits to be merged: its elements, where it starts in the
    row, and how deep the boundary behind it lies. -/
structure Waiting (α : Type) where
  run : List α
  start : Nat
  depth : Nat

/-- How deep the boundary between two runs lies in a row of `total`
    elements: the first binary place in which the middles of the runs
    differ. -/
def boundaryDepth (total start firstLength secondLength : Nat) : Nat :=
  let low := 2 * start + firstLength
  differing total low (low + firstLength + secondLength) 1
where
  /-- Doubles two numbers until one of them passes the total. -/
  differing : Nat → Nat → Nat → Nat → Nat
    | 0, _, _, depth => depth
    | fuel + 1, low, high, depth =>
        if total ≤ low then
          differing fuel (2 * (low - total)) (2 * (high - total)) (depth + 1)
        else if total ≤ high then depth
        else differing fuel (2 * low) (2 * high) (depth + 1)

/-- Merges the last two waiting runs, the last of which comes first. -/
def mergeTop {α : Type} (before : Comparison α) (threshold : Nat) :
    List (Waiting α) → Option (List (Waiting α) × Nat)
  | second :: first :: rest =>
      match mergeRuns before threshold first.run second.run with
      | none => none
      | some (run, threshold) => some (⟨run, first.start, first.depth⟩ :: rest, threshold)
  | others => some (others, threshold)

/-- Merges waiting runs until the boundary before the last one is not
    deeper than a new one. -/
def mergeDeeper {α : Type} (before : Comparison α) (depth : Nat) :
    Nat → List (Waiting α) → Nat → Option (List (Waiting α) × Nat)
  | 0, waiting, threshold => some (waiting, threshold)
  | fuel + 1, waiting, threshold =>
      match waiting with
      | _ :: first :: _ =>
          if depth < first.depth then
            match mergeTop before threshold waiting with
            | none => none
            | some (waiting, threshold) => mergeDeeper before depth fuel waiting threshold
          else some (waiting, threshold)
      | _ => some (waiting, threshold)

/-- Merges all waiting runs.  Where three are left, the shorter of the
    outer two is merged with the one between them. -/
def mergeAll {α : Type} (before : Comparison α) :
    Nat → List (Waiting α) → Nat → Option (List α)
  | 0, waiting, _ => some (waiting.reverse.flatMap (·.run))
  | fuel + 1, waiting, threshold =>
      match waiting with
      | third :: second :: first :: rest =>
          if first.run.length < third.run.length then
            match mergeTop before threshold (second :: first :: rest) with
            | none => none
            | some (merged, threshold) => mergeAll before fuel (third :: merged) threshold
          else
            match mergeTop before threshold waiting with
            | none => none
            | some (merged, threshold) => mergeAll before fuel merged threshold
      | [_, _] =>
          match mergeTop before threshold waiting with
          | none => none
          | some (merged, threshold) => mergeAll before fuel merged threshold
      | [only] => some only.run
      | [] => some []

/-- Cuts a row into runs and merges them as they come. -/
def sortOn {α : Type} (before : Comparison α) (total least : Nat) :
    Nat → Nat → List (Waiting α) → Nat → List α → Option (List α)
  | 0, _, waiting, threshold, _ => mergeAll before total waiting threshold
  | _, _, waiting, threshold, [] => mergeAll before total waiting threshold
  | fuel + 1, start, waiting, threshold, x :: row => do
      let (natural, left) ← takeRun before (x :: row)
      let lacking := least - natural.length
      let run ← insertAll before natural (left.take lacking)
      let left := left.drop lacking
      let (waiting, threshold) ←
        match waiting with
        | [] => some ([], threshold)
        | last :: rest => do
            let depth := boundaryDepth total last.start last.run.length run.length
            let (merged, threshold) ← mergeDeeper before depth total (last :: rest) threshold
            match merged with
            | [] => some ([], threshold)
            | last :: rest => some (⟨last.run, last.start, depth⟩ :: rest, threshold)
      sortOn before total least fuel (start + run.length) (⟨run, start, 0⟩ :: waiting) threshold
        left

/-- The elements of a row in order; none if two that are compared have no
    order. -/
def sort {α : Type} (before : Comparison α) (row : List α) : Option (List α) :=
  sortOn before row.length (leastRun row.length) row.length 0 [] winsToGallop row

end HermesBundle.Ordering
