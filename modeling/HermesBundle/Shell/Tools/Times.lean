import HermesBundle.Shell.Calendar
import HermesBundle.Shell.Floating
import HermesBundle.Shell.Tools.Files

/-! # Times — programs that read clocks, mark files with times and wait -/

namespace HermesBundle.Shell

/-- The present. -/
def Run.present : Run Moment := do
  return Moment.ofMilliseconds (← get).toWorld.now

/-- The milliseconds that a number with a unit stands for, rounded up; none
    is an interval without end. -/
def intervalOf (t : Octets) : Option (Option Nat) := do
  let (x, rest) ← Floating.read .extended t
  let factor ← match rest with
    | [] => some 1
    | ['s'] => some 1
    | ['m'] => some 60
    | ['h'] => some 3600
    | ['d'] => some 86400
    | _ => none
  match x with
  | .nan _ => none
  | .infinite negative => if negative then none else some none
  | .finite negative m e =>
      if negative && m != 0 then none
      else
        let (num, den) := Floating.ratio m e
        some (some ((num * factor * 1000 + den - 1) / den))

/-- The interval of an argument; anything else ends the program. -/
def intervalArgument (status : Nat) (t : String) : Run (Option Nat) := do
  match intervalOf t.toList with
  | some interval => return interval
  | none => Run.misuse status ("invalid time interval " ++ (← Run.inQuotes t))

/-- How long a process waits that waits without end. -/
def endlessTime : Nat := 1000000000000

namespace Tool

/-- Waits. -/
def sleep : Tool := fun arguments => do
  let g ← given [] 1 arguments
  if g.operands.isEmpty then Run.missing 1 "operand"
  let mut total := 0
  let mut isWrong := false
  for t in g.operands do
    match intervalOf t.toList with
    | some interval => total := total + interval.getD endlessTime
    | none => do
        Run.objection ("invalid time interval " ++ (← Run.inQuotes t))
        isWrong := true
  if isWrong then
    Run.hint
    return 1
  else
    Run.sleep total
    return 0

/-! ## Times of files -/

/-- Gives a file its times, and makes it if it is missing. -/
def touchFile (g : Given) (moment : Moment) (path : String) : Run Nat := do
  let follows := !g.has "h"
  let setTime := fun (_ : Unit) => do
    match ← Run.spot follows path with
    | .ok (.found l e) => do
        if !(g.has "a" && !g.has "m") then
          Run.changeWorld fun w => w.change l e fun node => { node with modified := moment.milliseconds }
        return none
    | .ok (.free _) => return some Errno.noEntry
    | .error e => return some e
  if path == "-" then return 0
  else
    let failed ←
      if g.has "c" || g.has "h" then pure none
      else
        match ← Run.spot true path with
        | .ok (.free l) => do
            let mask := (← get).mask
            if path.toList.getLast? != some '/' then
              Run.changeWorld fun w => (w.make l (.file [] false) (masked 0o666 mask)).1
            pure none
        | .ok (.found _ _) => pure none
        | .error e =>
            let bare := String.ofList (withoutSlashes path.toList)
            match ← Run.spot true bare with
            | .ok (.free _) => pure none
            | _ => pure (some e)
    match failed with
    | some e => cannot ("cannot touch " ++ (← Run.quoted path)) e
    | none => do
        match ← setTime () with
        | none => return 0
        | some .noEntry =>
            if g.has "c" then return 0
            else cannot ("setting times of " ++ (← Run.quoted path)) .noEntry
        | some e => cannot ("setting times of " ++ (← Run.quoted path)) e

/-- Gives files the present or another time. -/
def touch : Tool := fun arguments => do
  let g ← given
    [flag 'a' "", flag 'c' "no-create", valued 'd' "date", flag 'f' "", flag 'h' "no-dereference",
     flag 'm' "", valued 'r' "reference", valued 't' "", long "time" .required] 1 arguments
  let now ← Run.present
  let isStamped := g.has "t"
  let fromStamp ← match g.value? "t" with
    | none => pure none
    | some t =>
        match Calendar.momentOfStamp now t.toList with
        | some m => pure (some m)
        | none => do Run.quit 1 ("invalid date format " ++ (← Run.inQuotes t))
  if isStamped && (g.has "r" || g.has "d") then
    Run.misuse 1 "cannot specify times from more than one source"
  let base ← match g.value? "r" with
    | none => pure none
    | some path =>
        match ← Run.status (!g.has "h") path with
        | .ok f => pure (some (Moment.ofMilliseconds f.modified))
        | .error e =>
            Run.quit 1 ("failed to get attributes of " ++ (← Run.quoted path) ++ ": " ++ e.text)
  let described ← match g.value? "d" with
    | none => pure none
    | some t =>
        match Calendar.momentOf (base.getD now) t.toList with
        | some m => pure (some m)
        | none => do Run.quit 1 ("invalid date format " ++ (← Run.inQuotes t))
  if g.operands.isEmpty then Run.missing 1 "file operand"
  let moment := (fromStamp.or (described.or base)).getD now
  overall (touchFile g moment) g.operands 0

/-! ## Dates -/

/-- The usual format of dates. -/
def usualDate : String := "%a %b %e %H:%M:%S %Z %Y"

/-- The formats by how much of the time they show. -/
def preciseFormats : List (String × String) :=
  [("hours", "%Y-%m-%dT%H%:z"), ("minutes", "%Y-%m-%dT%H:%M%:z"), ("date", "%Y-%m-%d"),
   ("seconds", "%Y-%m-%dT%H:%M:%S%:z"), ("ns", "%Y-%m-%dT%H:%M:%S,%N%:z")]

/-- The formats with a blank between date and time. -/
def spacedFormats : List (String × String) :=
  [("date", "%Y-%m-%d"), ("seconds", "%Y-%m-%d %H:%M:%S%:z"), ("ns", "%Y-%m-%d %H:%M:%S.%N%:z")]

/-- The value under a name that may be cut; anything else ends the
    program. -/
def chosenFormat (option : String) (formats : List (String × String)) (t : String) : Run String := do
  let word ← wordArgument option (formats.map (·.1)) t
  return (formats.lookup word).getD ""

/-- Writes a date. -/
def date : Tool := fun arguments => do
  let g ← given
    [valued 'd' "date", valued 'f' "file", ⟨some 'I', "iso-8601", .optional⟩, valued 'r' "reference",
     flag 'R' "rfc-email", long "rfc-822" .none, long "rfc-2822" .none, long "rfc-3339" .required,
     valued 's' "set", flag 'u' "utc", long "universal" .none, long "debug" .none] 1 arguments
  let mut format : Option String := none
  for (key, value) in g.options do
    if key == "I" then
      format := some (← chosenFormat "--iso-8601" preciseFormats (value.getD "date"))
    else if key == "R" || key == "rfc-822" || key == "rfc-2822" then
      format := some "%a, %d %b %Y %H:%M:%S %z"
    else if key == "rfc-3339" then
      format := some (← chosenFormat "--rfc-3339" spacedFormats (value.getD ""))
  let sources := [g.has "d", g.has "f", g.has "r"].filter fun holds => holds
  if sources.length > 1 then
    Run.misuse 1 "the options to specify dates for printing are mutually exclusive"
  match g.operands with
  | _ :: second :: _ => Run.extra 1 second
  | operands => do
      for t in operands do
        match t.toList with
        | '+' :: rest =>
            if format.isSome then Run.quit 1 "multiple output formats specified"
            else format := some (String.ofList rest)
        | _ =>
            if g.has "d" || g.has "f" || g.has "r" then
              Run.misuse 1 ("the argument " ++ (← Run.inQuotes t)
                ++ " lacks a leading \x27+\x27;\nwhen using an option to specify date(s), any non-option\n"
                ++ "argument must be a format string beginning with \x27+\x27")
            else Run.quit 1 ("invalid date " ++ (← Run.inQuotes t))
      let shape := (format.getD usualDate).toList
      let now ← Run.present
      let write := fun (t : Octets) => do
        match Calendar.momentOf now t with
        | some m => do
            Run.printLine (Calendar.format shape m)
            return 0
        | none => do
            Run.objection ("invalid date " ++ (← Run.inQuotes (String.ofList t)))
            return 1
      match g.value? "d", g.value? "f", g.value? "r" with
      | some t, _, _ => write t.toList
      | none, some path, _ => do
          match ← inputContent path with
          | .error .noEntry => do
              fileFailure path .noEntry
              return 1
          | .error e => do
              Run.objection ((← titledName path) ++ ": read error: " ++ e.text)
              return 1
          | .ok t => overall write (linesOf t) 0
      | none, none, some path => do
          match ← Run.status true path with
          | .ok f => do
              Run.printLine (Calendar.format shape (Moment.ofMilliseconds f.modified))
              return 0
          | .error e => do
              fileFailure path e
              return 1
      | none, none, none => do
          Run.printLine (Calendar.format shape now)
          return 0

end Tool

end HermesBundle.Shell
