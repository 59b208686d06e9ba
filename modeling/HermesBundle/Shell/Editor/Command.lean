import HermesBundle.Shell.Regex.Notation

/-! # Commands — what an editor of streams does with lines

    A script is a sequence of commands, each for the lines that its
    addresses select.  A block is a command that goes on behind its end if
    a line is not selected, so that the sequence is flat. -/

namespace HermesBundle.Shell.Editor

/-- What a single address selects. -/
inductive Address where
  | line (n : Nat)
  | step (first size : Nat)
  | last
  /-- Lines that match; the search is the latest one if there is none. -/
  | matching (search : Option Search)

/-- Where a range ends. -/
inductive RangeEnd where
  | at (address : Address)
  /-- After some number of further lines. -/
  | after (count : Nat)
  /-- At the next line whose number is a multiple. -/
  | multiple (n : Nat)

/-- The lines that a command is for. -/
structure Selection where
  first : Option Address
  last : Option RangeEnd
  isNegated : Bool

/-- How the case of letters is changed. -/
inductive CaseChange where
  | upper
  | lower
  | upperFirst
  | lowerFirst
  | finish
deriving DecidableEq

/-- A part of a replacement. -/
inductive Piece where
  | text (t : Octets)
  | group (n : Nat)
  | changes (c : CaseChange)

/-- A substitution. -/
structure Substitution where
  /-- What is replaced; the latest search if there is none. -/
  search : Option Search
  replacement : List Piece
  isGlobal : Bool
  /-- The number of the first match that is replaced. -/
  number : Nat
  prints : Bool
  file : Option String

/-- When a jump is taken. -/
inductive JumpCondition where
  | always
  | replaced
  | unchanged
deriving DecidableEq

/-- What a command does. -/
inductive Action where
  /-- Goes on at a place if the line is not selected. -/
  | block (finish : Nat)
  | append (t : Octets)
  | insert (t : Octets)
  | change (t : Octets)
  | jump (condition : JumpCondition) (label : String)
  | delete
  | deleteFirst
  | showName
  | takeHold
  | addHold
  | keep
  | addToHold
  | exchange
  | showEscaped (width : Option Nat)
  | next
  | addNext
  | print
  | printFirst
  | quit (status : Nat)
  | quitSilently (status : Nat)
  | readFile (name : String)
  | readLine (name : String)
  | substitute (s : Substitution)
  | write (name : String)
  | writeFirst (name : String)
  | transliterate (source target : List Octets)
  | clear
  | showNumber
  | nothing

/-- A command. -/
structure Command where
  selection : Selection
  action : Action

/-- A script: its commands and the places of its labels. -/
structure Script where
  commands : Array Command
  labels : List (String × Nat)
  /-- Whether lines are not shown unless a command does so. -/
  isQuiet : Bool

/-- The files that a script writes. -/
def Script.files (s : Script) : List String :=
  (s.commands.toList.filterMap fun c =>
    match c.action with
    | .write name => some name
    | .writeFirst name => some name
    | .substitute sub => sub.file
    | _ => none).eraseDups

/-- The labels that a script jumps to and does not have. -/
def Script.missingLabel (s : Script) : Option String :=
  s.commands.toList.findSome? fun c =>
    match c.action with
    | .jump _ label => if label.isEmpty || (s.labels.lookup label).isSome then none else some label
    | _ => none

end HermesBundle.Shell.Editor
