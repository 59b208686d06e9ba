import HermesBundle.Shell.Regex.Expression

/-! # Matching — where a regular expression fits a text

    The match that starts first is taken, and of those the longest.  Its
    parts are found from the outside in: each part of a sequence is as
    long as the later ones allow.  An expression that asks again for what
    a group matched is searched with the groups that are known. -/

namespace HermesBundle.Shell.Regex

/-- Whether a character of the text is a character of words. -/
def isWordAt (s : Subject) (i : Nat) : Bool := (s.code? i).any isWordCode

/-- Whether something holds before a place. -/
def edgeHolds (m : SearchMode) (s : Subject) (e : Edge) (i : Nat) : Bool :=
  let before := 0 < i && isWordAt s (i - 1)
  let after := isWordAt s i
  match e with
  | .textStart => i == 0
  | .textEnd => i == s.size
  | .lineStart => i == 0 || (m.byLine && s.code? (i - 1) == some 10)
  | .lineEnd => i == s.size || (m.byLine && s.code? i == some 10)
  | .wordStart => !before && after
  | .wordEnd => before && !after
  | .wordEdge => before != after
  | .wordInside => before == after

/-- Whether a set holds a character. -/
def setHolds (m : SearchMode) (parts : List SetPart) (code : Nat) : Bool :=
  parts.any (fun p => p.holds code)
    || (m.ignoresCase && (
      let low := foldCode code
      let high := if code < 128 then (raised (Char.ofNat code)).toNat else mapCode upperRuns code
      parts.any fun p => p.holds low || p.holds high))

/-- Whether an expression for one character fits a character; none if it is
    no such expression. -/
def fitsOne (m : SearchMode) (r : Regex) : Option (Nat → Bool) :=
  match r with
  | .char c =>
      if m.ignoresCase then
        let c := foldCode c
        some fun d => foldCode d == c
      else some fun d => d == c
  | .any => some fun d => d < 0x110000
  | .set negated parts => some fun d =>
      if negated then d < 0x110000 && !setHolds m parts d else setHolds m parts d
  | _ => none

/-- Two ascending lists in one. -/
def mergePlaces : Nat → List Nat → List Nat → List Nat → List Nat
  | 0, a, b, found => found.reverse ++ a ++ b
  | _, [], b, found => found.reverse ++ b
  | _, a, [], found => found.reverse ++ a
  | fuel + 1, x :: a, y :: b, found =>
      if x < y then mergePlaces fuel a (y :: b) (x :: found)
      else if y < x then mergePlaces fuel (x :: a) b (y :: found)
      else mergePlaces fuel a b (x :: found)

/-- Places in both of two ascending lists or in one of them. -/
def unitePlaces (a b : List Nat) : List Nat :=
  match a, b with
  | [], b => b
  | a, [] => a
  | a, b => mergePlaces (a.length + b.length) a b []

/-- Places of an ascending list that are not in another one. -/
def newPlaces : List Nat → List Nat → List Nat → List Nat
  | [], _, found => found.reverse
  | a, [], found => found.reverse ++ a
  | x :: a, y :: b, found =>
      if x < y then newPlaces a (y :: b) (x :: found)
      else if y < x then newPlaces (x :: a) b found
      else newPlaces a b found
termination_by a b => a.length + b.length

/-- A place and all places that a run of fitting characters leads to from
    there or from later starting places. -/
def runPlaces (fits : Nat → Bool) (s : Subject) : Nat → Nat → List Nat → List Nat → List Nat
  | 0, _, _, found => found.reverse
  | fuel + 1, i, starts, found =>
      let later := starts.dropWhile (· ≤ i)
      if (s.code? i).any fits then runPlaces fits s fuel (i + 1) later (i :: found)
      else
        match later with
        | [] => (i :: found).reverse
        | next :: _ => runPlaces fits s fuel next later (i :: found)

/-- Repeats a step from some places on until nothing new is found. -/
def closure (step : List Nat → List Nat) : Nat → List Nat → List Nat → List Nat
  | 0, _, found => found
  | fuel + 1, frontier, found =>
      match newPlaces (step frontier) found [] with
      | [] => found
      | fresh => closure step fuel fresh (unitePlaces found fresh)

/-- Takes a step some number of times. -/
def stepTimes (step : List Nat → List Nat) : Nat → List Nat → List Nat
  | 0, places => places
  | n + 1, places => if places.isEmpty then [] else stepTimes step n (step places)

/-- The places after at most some number of further steps. -/
def stepUpTo (step : List Nat → List Nat) : Nat → List Nat → List Nat → List Nat
  | 0, _, found => found
  | n + 1, frontier, found =>
      match newPlaces (step frontier) found [] with
      | [] => found
      | fresh => stepUpTo step n fresh (unitePlaces found fresh)

/-- The places that an expression leads to from some places, both in
    ascending order. -/
def ends (m : SearchMode) (s : Subject) (r : Regex) (places : List Nat) : List Nat :=
  if places.isEmpty then []
  else
    match r with
    | .empty => places
    | .edge e => places.filter fun i => edgeHolds m s e i
    | .seq a b => b.ends m s (a.ends m s places)
    | .either a b => unitePlaces (a.ends m s places) (b.ends m s places)
    | .group _ a => a.ends m s places
    | .again _ => []
    | .repeated a least most =>
        match fitsOne m a, least, most with
        | some fits, 0, none =>
            match places with
            | first :: _ => runPlaces fits s (s.size + places.length + 2) first places []
            | [] => []
        | _, _, _ =>
            let step := a.ends m s
            let first := stepTimes step least places
            match most with
            | none => closure step (s.size + 2) first first
            | some most => stepUpTo step (most - least) first first
    | r =>
        match fitsOne m r with
        | some fits => (places.filter fun i => (s.code? i).any fits).map (· + 1)
        | none => []

/-- The groups with the places between which they matched. -/
abbrev Captures := List (Nat × Nat × Nat)

/-- The place of a group. -/
def setCapture (c : Captures) (n i j : Nat) : Captures := (n, i, j) :: c.filter fun (k, _, _) => k != n

/-- Divides a repetition that goes from one place to another into its
    rounds, each as long as the later ones allow. -/
def rounds (m : SearchMode) (s : Subject) (r : Regex) (goal : Nat) :
    Nat → Nat → Nat → Option Nat → List (Nat × Nat) → List (Nat × Nat)
  | 0, _, _, _, found => found
  | fuel + 1, i, least, most, found =>
      if i == goal && least == 0 then found
      else
        let candidates := (r.ends m s [i]).reverse.filter fun k => k ≤ goal && (i < k || least > 0)
        let rest := Regex.repeated r (least - 1) (most.map (· - 1))
        match candidates.find? fun k => (rest.ends m s [k]).contains goal with
        | some k => rounds m s r goal fuel k (least - 1) (most.map (· - 1)) ((i, k) :: found)
        | none => found

/-- What the groups of an expression match that goes from one place to
    another. -/
def captures (m : SearchMode) (s : Subject) (r : Regex) (i j : Nat) (c : Captures) : Captures :=
  match r with
  | .group n a => setCapture (a.captures m s i j c) n i j
  | .seq a b =>
      let middles := (a.ends m s [i]).reverse
      match middles.find? fun k => k ≤ j && (b.ends m s [k]).contains j with
      | some k => b.captures m s k j (a.captures m s i k c)
      | none => c
  | .either a b =>
      if (a.ends m s [i]).contains j then a.captures m s i j c else b.captures m s i j c
  | .repeated a least most =>
      if a.groups = 0 || most == some 0 then c
      else if i == j then
        if (a.ends m s [i]).contains i then a.captures m s i i c else c
      else
        let found := (rounds m s a j (s.size + 2) i least most []).reverse
        found.foldl (fun c (x, y) => a.captures m s x y c) c
  | _ => c

/-! ## With groups that are asked for again -/

/-- Whether the text between two places is found again at a third one. -/
def sameText (m : SearchMode) (s : Subject) (i j k : Nat) : Bool :=
  k + (j - i) ≤ s.size && (List.range (j - i)).all fun d =>
    match s.code? (i + d), s.code? (k + d) with
    | some a, some b => a == b || (m.ignoresCase && foldCode a == foldCode b)
    | _, _ => false

/-- A place that was reached, and the groups so far. -/
abbrev Reached := Nat × Captures

/-- Removes places that were reached before in the same way. -/
def distinct (found : List Reached) : List Reached := found.eraseDups

mutual

/-- The ways in which an expression can go on from a place, the one that is
    wanted most first. -/
def ways (m : SearchMode) (s : Subject) : Nat → Regex → Reached → List Reached
  | 0, _, _ => []
  | fuel + 1, r, (i, c) =>
      match r with
      | .empty => [(i, c)]
      | .edge e => if edgeHolds m s e i then [(i, c)] else []
      | .seq a b => distinct ((ways m s fuel a (i, c)).flatMap (ways m s fuel b))
      | .either a b => distinct (ways m s fuel a (i, c) ++ ways m s fuel b (i, c))
      | .group n a => (ways m s fuel a (i, c)).map fun (j, c) => (j, setCapture c n i j)
      | .again n =>
          match c.lookup n with
          | some (x, y) => if sameText m s x y i then [(i + (y - x), c)] else []
          | none => []
      | .repeated a least most => distinct (repeats m s fuel a least most (i, c))
      | r =>
          match fitsOne m r with
          | some fits => if (s.code? i).any fits then [(i + 1, c)] else []
          | none => []

/-- The ways in which a repetition can go on from a place. -/
def repeats (m : SearchMode) (s : Subject) : Nat → Regex → Nat → Option Nat → Reached → List Reached
  | 0, _, _, _, at_ => [at_]
  | fuel + 1, a, least, most, (i, c) =>
      let more :=
        if most == some 0 then []
        else
          ((ways m s fuel a (i, c)).filter fun (j, _) => i < j || least > 0).flatMap fun next =>
            repeats m s fuel a (least - 1) (most.map (· - 1)) next
      if least = 0 then more ++ [(i, c)] else more

end

/-- The longest of some ways; of those equally long the first one. -/
def longestWay : List Reached → Option Reached
  | [] => none
  | first :: rest => some (rest.foldl (fun best way => if best.1 < way.1 then way else best) first)

end Regex

/-- A match: where it is and what its groups matched. -/
structure Found where
  start : Nat
  finish : Nat
  groups : Regex.Captures

namespace Search

/-- The match at a place, as long as possible. -/
def matchAt (r : Search) (s : Subject) (i : Nat) : Option Found :=
  if r.regex.hasAgain then
    (Regex.longestWay (Regex.ways r.mode s (4 * s.size + 200) r.regex (i, []))).map fun (j, c) => ⟨i, j, c⟩
  else
    (r.regex.ends r.mode s [i]).getLast?.map fun j =>
      ⟨i, j, if r.groups = 0 then [] else r.regex.captures r.mode s i j []⟩

/-- The first match from a place on. -/
def findFrom (r : Search) (s : Subject) : Nat → Nat → Option Found
  | 0, _ => none
  | fuel + 1, i =>
      if s.size < i then none
      else
        match r.matchAt s i with
        | some f => some f
        | none => r.findFrom s fuel (i + 1)

/-- The first match from a place on. -/
def find? (r : Search) (s : Subject) (start : Nat) : Option Found := r.findFrom s (s.size + 1 - start) start

/-- Whether there is a match. -/
def isIn (r : Search) (s : Subject) : Bool :=
  if r.regex.hasAgain then (r.find? s 0).isSome
  else !(r.regex.ends r.mode s (List.range (s.size + 1))).isEmpty

end Search

end HermesBundle.Shell
