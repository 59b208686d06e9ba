/-! # Alignment — which members of two sequences have no partner

    Two sequences are put beside each other so that as few members as
    possible are left without an equal one.  The way is found from both
    ends at once: the points that some number of steps can reach from the
    start and from the end are followed until they meet.  Where there are
    several ways, the runs that are left are moved on as far as they can
    be. -/

namespace HermesBundle.Shell.Alignment

/-! ## The middle of a way -/

/-- The part of two sequences between some positions. -/
structure Part where
  left : Nat
  right : Nat
  top : Nat
  bottom : Nat

/-- The points that have been reached on the diagonals, and the range of
    diagonals. -/
structure Front where
  reached : Array Int
  low : Int
  high : Int

/-- Two sequences. -/
structure Sequences where
  xs : Array Nat
  ys : Array Nat

namespace Sequences

/-- Whether two positions hold equal members. -/
def agree (s : Sequences) (x y : Int) : Bool :=
  match s.xs[x.toNat]?, s.ys[y.toNat]? with
  | some a, some b => a == b
  | _, _ => false

/-- The place of a diagonal in an array. -/
def slot (s : Sequences) (d : Int) : Nat := (d + s.ys.size + 1).toNat

/-- What has been reached on a diagonal. -/
def at? (s : Sequences) (reached : Array Int) (d : Int) : Int := reached.getD (s.slot d) (-1)

/-- Goes on along equal members. -/
def slideOn (s : Sequences) (p : Part) : Nat → Int → Int → Int
  | 0, x, _ => x
  | fuel + 1, x, y =>
      if x < p.right && y < p.bottom && s.agree x y then slideOn s p fuel (x + 1) (y + 1) else x

/-- Goes back along equal members. -/
def slideBack (s : Sequences) (p : Part) : Nat → Int → Int → Int
  | 0, x, _ => x
  | fuel + 1, x, y =>
      if p.left < x && p.top < y && s.agree (x - 1) (y - 1) then slideBack s p fuel (x - 1) (y - 1)
      else x

/-- One step on from the start on every second diagonal from some one down;
    the result is a meeting point or what has been reached. -/
def stepOn (s : Sequences) (p : Part) (odd : Bool) (back : Front) (low : Int) :
    Nat → Int → Array Int → Except (Nat × Nat) (Array Int)
  | 0, _, reached => .ok reached
  | fuel + 1, d, reached =>
      if d < low then .ok reached
      else
        let lower := s.at? reached (d - 1)
        let upper := s.at? reached (d + 1)
        let x := if lower < upper then upper else lower + 1
        let x := s.slideOn p (s.xs.size + 1) x (x - d)
        let reached := reached.setIfInBounds (s.slot d) x
        if odd && back.low ≤ d && d ≤ back.high && s.at? back.reached d ≤ x then
          .error (x.toNat, (x - d).toNat)
        else stepOn s p odd back low fuel (d - 2) reached

/-- One step back from the end on every second diagonal from some one down. -/
def stepBack (s : Sequences) (p : Part) (odd : Bool) (front : Front) (low : Int) :
    Nat → Int → Array Int → Except (Nat × Nat) (Array Int)
  | 0, _, reached => .ok reached
  | fuel + 1, d, reached =>
      if d < low then .ok reached
      else
        let lower := s.at? reached (d - 1)
        let upper := s.at? reached (d + 1)
        let x := if lower < upper then lower else upper - 1
        let x := s.slideBack p (s.xs.size + 1) x (x - d)
        let reached := reached.setIfInBounds (s.slot d) x
        if !odd && front.low ≤ d && d ≤ front.high && x ≤ s.at? front.reached d then
          .error (x.toNat, (x - d).toNat)
        else stepBack s p odd front low fuel (d - 2) reached

/-- The front with one more diagonal at each end that is still within the
    part, and one less at each other end; diagonals outside have a value. -/
def widen (s : Sequences) (f : Front) (least greatest outside : Int) : Front :=
  let f :=
    if least < f.low then
      { f with low := f.low - 1, reached := f.reached.setIfInBounds (s.slot (f.low - 2)) outside }
    else { f with low := f.low + 1 }
  if f.high < greatest then
    { f with high := f.high + 1, reached := f.reached.setIfInBounds (s.slot (f.high + 2)) outside }
  else { f with high := f.high - 1 }

/-- The point where the ways from both ends meet. -/
def meeting (s : Sequences) (p : Part) (odd : Bool) : Nat → Front → Front → Nat × Nat
  | 0, _, _ => (p.right, p.top)
  | fuel + 1, front, back =>
      let least : Int := (p.left : Int) - p.bottom
      let greatest : Int := (p.right : Int) - p.top
      let wide := s.xs.size + s.ys.size + 3
      let front := s.widen front least greatest (-1)
      match s.stepOn p odd back front.low wide front.high front.reached with
      | .error point => point
      | .ok reached =>
          let front := { front with reached := reached }
          let back := s.widen back least greatest (wide : Nat)
          match s.stepBack p odd front back.low wide back.high back.reached with
          | .error point => point
          | .ok reached => meeting s p odd fuel front { back with reached := reached }

/-- A point in the middle of a shortest way through a part. -/
def middle (s : Sequences) (p : Part) : Nat × Nat :=
  let size := s.xs.size + s.ys.size + 3
  let first : Int := (p.left : Int) - p.top
  let last : Int := (p.right : Int) - p.bottom
  let blank := List.toArray (List.replicate size (-1 : Int))
  let far := List.toArray (List.replicate size (size : Int))
  let front : Front := ⟨blank.setIfInBounds (s.slot first) p.left, first, first⟩
  let back : Front := ⟨far.setIfInBounds (s.slot last) p.right, last, last⟩
  s.meeting p ((first - last) % 2 != 0) size front back

/-! ## What is left -/

/-- Marks a range of positions. -/
def marked (marks : Array Bool) (low high : Nat) : Array Bool :=
  (List.range (high - low)).foldl (fun m n => m.setIfInBounds (low + n) true) marks

/-- Marks the members of a part that have no partner. -/
def markPart (s : Sequences) : Nat → Part → Array Bool × Array Bool → Array Bool × Array Bool
  | 0, _, marks => marks
  | fuel + 1, p, (mx, my) =>
      let left := (s.slideOn p (s.xs.size + 1) p.left p.top).toNat
      let top := p.top + (left - p.left)
      let p := { p with left := left, top := top }
      let right := (s.slideBack p (s.xs.size + 1) p.right p.bottom).toNat
      let bottom := p.bottom - (p.right - right)
      let p := { p with right := right, bottom := bottom }
      if p.left = p.right then (mx, marked my p.top p.bottom)
      else if p.top = p.bottom then (marked mx p.left p.right, my)
      else
        let (x, y) := s.middle p
        let marks := markPart s fuel ⟨p.left, x, p.top, y⟩ (mx, my)
        markPart s fuel ⟨x, p.right, y, p.bottom⟩ marks

/-- Marks the members of both sequences that have no partner.  Those that
    have no equal one at all are left out before a way is sought. -/
def unpaired (s : Sequences) : Array Bool × Array Bool :=
  let kept := fun (a b : Array Nat) =>
    (List.range a.size).filter fun n => b.contains (a.getD n 0)
  let kx := kept s.xs s.ys
  let ky := kept s.ys s.xs
  let inner : Sequences :=
    ⟨List.toArray (kx.map fun n => s.xs.getD n 0), List.toArray (ky.map fun n => s.ys.getD n 0)⟩
  let blank := fun (n : Nat) => List.toArray (List.replicate n false)
  let (mx, my) := inner.markPart (kx.length + ky.length + 2)
    ⟨0, kx.length, 0, ky.length⟩ (blank kx.length, blank ky.length)
  let spread := fun (size : Nat) (kept : List Nat) (marks : Array Bool) =>
    (kept.zipIdx).foldl (fun m (n, i) => m.setIfInBounds n (marks.getD i false))
      (List.toArray (List.replicate size true))
  (spread s.xs.size kx mx, spread s.ys.size ky my)

end Sequences

/-! ## Runs -/

/-- A run of marked members in one sequence while it is moved, and the place
    that corresponds to it in the other one. -/
structure MovingRun where
  marks : Array Bool
  start : Nat
  finish : Nat
  other : Nat

/-- Whether a position is marked. -/
def isMarked (marks : Array Bool) (n : Nat) : Bool := marks.getD n false

/-- The first position from some one on that is not marked. -/
def afterMarked (marks : Array Bool) : Nat → Nat → Nat
  | 0, n => n
  | fuel + 1, n => if isMarked marks n then afterMarked marks fuel (n + 1) else n

/-- The first position of the marked ones that end before some position. -/
def beforeMarked (marks : Array Bool) : Nat → Nat → Nat
  | 0, n => n
  | fuel + 1, n => if 0 < n && isMarked marks (n - 1) then beforeMarked marks fuel (n - 1) else n

/-- The position one step back that is not marked. -/
def backPast (marks : Array Bool) : Nat → Nat → Nat
  | 0, n => n
  | fuel + 1, n => if isMarked marks (n - 1) then backPast marks fuel (n - 1) else n - 1

/-- Moves a run back as long as the member before it is like its last one. -/
def moveBack (members : Array Nat) (others : Array Bool) : Nat → MovingRun → MovingRun
  | 0, r => r
  | fuel + 1, r =>
      if 0 < r.start && members.getD (r.start - 1) 0 == members.getD (r.finish - 1) 0 then
        let marks := (r.marks.setIfInBounds (r.start - 1) true).setIfInBounds (r.finish - 1) false
        let start := beforeMarked marks marks.size (r.start - 1)
        moveBack members others fuel
          ⟨marks, start, r.finish - 1, backPast others (others.size + 1) r.other⟩
      else r

/-- Moves a run on as long as the member after it is like its first one.  The
    last end that corresponds to a run of the other sequence is kept. -/
def moveOn (members : Array Nat) (others : Array Bool) :
    Nat → Option Nat → MovingRun → Option Nat × MovingRun
  | 0, kept, r => (kept, r)
  | fuel + 1, kept, r =>
      if r.finish < members.size && members.getD r.start 0 == members.getD r.finish 0 then
        let marks := (r.marks.setIfInBounds r.start false).setIfInBounds r.finish true
        let finish := afterMarked marks marks.size (r.finish + 1)
        let other := afterMarked others others.size (r.other + 1)
        let kept := if other != r.other + 1 then some finish else kept
        moveOn members others fuel kept ⟨marks, r.start + 1, finish, other⟩
      else (kept, r)

/-- Moves a run back and on until it does not grow any more. -/
def settleRun (members : Array Nat) (others : Array Bool) :
    Nat → MovingRun → Option Nat × MovingRun
  | 0, r => (none, r)
  | fuel + 1, r =>
      let length := r.finish - r.start
      let r := moveBack members others members.size r
      let kept := if 0 < r.other && isMarked others (r.other - 1) then some r.finish else none
      let (kept, r) := moveOn members others members.size kept r
      if r.finish - r.start = length then (kept, r) else settleRun members others fuel r

/-- Moves a run back to an end. -/
def returnTo (others : Array Bool) (finish : Nat) : Nat → MovingRun → MovingRun
  | 0, r => r
  | fuel + 1, r =>
      if finish < r.finish then
        let marks := (r.marks.setIfInBounds (r.start - 1) true).setIfInBounds (r.finish - 1) false
        returnTo others finish fuel
          ⟨marks, r.start - 1, r.finish - 1, backPast others (others.size + 1) r.other⟩
      else r

/-- Moves the runs from some position on. -/
def moveRuns (members : Array Nat) (others : Array Bool) :
    Nat → Nat → Nat → Array Bool → Array Bool
  | 0, _, _, marks => marks
  | fuel + 1, n, other, marks =>
      if members.size ≤ n then marks
      else if !isMarked marks n then
        moveRuns members others fuel (n + 1) (afterMarked others others.size other + 1) marks
      else
        let finish := afterMarked marks marks.size (n + 1)
        let (kept, r) := settleRun members others (members.size + 1)
          ⟨marks, n, finish, afterMarked others others.size other⟩
        let r := match kept with
          | some finish => returnTo others finish members.size r
          | none => r
        moveRuns members others fuel r.finish r.other r.marks

/-- A change between two sequences: where it is and how much of each it
    takes. -/
structure Change where
  left : Nat
  right : Nat
  deleted : Nat
  inserted : Nat

/-- The changes that marks describe, in order. -/
def changesOf (mx my : Array Bool) : Nat → Nat → Nat → List Change
  | 0, _, _ => []
  | fuel + 1, x, y =>
      if mx.size ≤ x && my.size ≤ y then []
      else
        let x' := afterMarked mx mx.size x
        let y' := afterMarked my my.size y
        if x' = x && y' = y then changesOf mx my fuel (x + 1) (y + 1)
        else ⟨x, y, x' - x, y' - y⟩ :: changesOf mx my fuel x' y'

/-- The changes that lead from one sequence to another. -/
def changes (xs ys : Array Nat) : List Change :=
  let (mx, my) := Sequences.unpaired ⟨xs, ys⟩
  let fuel := xs.size + ys.size + 2
  let mx := moveRuns xs my fuel 0 0 mx
  let my := moveRuns ys mx fuel 0 0 my
  changesOf mx my (2 * fuel) 0 0

end HermesBundle.Shell.Alignment
