import HermesBundle.Shell.Records.Datum
import HermesBundle.Shell.Regex.Notation

/-! # Programs — rules for records

    A program has rules that say which records they are for and what is
    done with them.  Functions have parameters, which are data or lookups
    as their use says. -/

namespace HermesBundle.Shell.Records

/-- A regular expression, as it was written and as it is searched with. -/
structure Matcher where
  source : Octets
  search : Search

/-- A variable of the program, or a parameter of a function. -/
inductive Name where
  | shared (name : String)
  | parameter (number : Nat)
deriving DecidableEq

/-- An operation on two numbers. -/
inductive Operator where
  | add
  | subtract
  | multiply
  | divide
  | remainder
  | power
deriving DecidableEq

/-- A relation between two data. -/
inductive Relation where
  | less
  | lessOrEqual
  | equal
  | different
  | greater
  | greaterOrEqual
deriving DecidableEq

/-- A function that is always there. -/
inductive Builtin where
  | length
  | index
  | substr
  | sprintf
  | sin
  | cos
  | atan2
  | exp
  | log
  | int
  | sqrt
  | rand
  | srand
  | close
  | system
  | toupper
  | tolower
  | fflush
  | mktime
  | strftime
  | systime
deriving DecidableEq

mutual

/-- Something that has a value. -/
inductive Expression where
  | constant (d : Datum)
  /-- Whether the record matches. -/
  | pattern (m : Matcher)
  | read (p : Place)
  | assign (p : Place) (e : Expression)
  | update (o : Operator) (p : Place) (e : Expression)
  /-- One more or less, before or after the value is taken. -/
  | count (isUp isBefore : Bool) (p : Place)
  | negate (e : Expression)
  | plus (e : Expression)
  | not (e : Expression)
  | arithmetic (o : Operator) (a b : Expression)
  | join (a b : Expression)
  | compare (r : Relation) (a b : Expression)
  | both (a b : Expression)
  | either (a b : Expression)
  | choose (condition yes no : Expression)
  | matching (isNegated : Bool) (e pattern : Expression)
  | within (indices : List Expression) (lookup : Name)
  | call (function : String) (arguments : List Expression)
  | builtin (b : Builtin) (arguments : List Expression)
  /-- The length of something that can be a lookup. -/
  | lengthOf (n : Name)
  /-- The next record of the input. -/
  | nextRecord (target : Option Place)
  /-- The next record of a file. -/
  | fileRecord (file : Expression) (target : Option Place)
  /-- The next record that a command writes. -/
  | commandRecord (command : Expression) (target : Option Place)
  | find (e pattern : Expression)
  | divide (e : Expression) (lookup : Name) (separator : Option Expression)
  | substitute (isAll : Bool) (pattern replacement : Expression) (target : Place)

/-- Something that can be assigned to. -/
inductive Place where
  | variable (n : Name)
  | field (number : Expression)
  | element (lookup : Name) (indices : List Expression)

end

/-- Where output goes. -/
inductive Destination where
  | file (e : Expression)
  | end_ (e : Expression)
  | command (e : Expression)

/-- Something to be done. -/
inductive Statement where
  | nothing
  | evaluate (e : Expression)
  | print (arguments : List Expression) (destination : Option Destination)
  | printFormatted (arguments : List Expression) (destination : Option Destination)
  | block (body : List Statement)
  | choose (condition : Expression) (yes no : Statement)
  | while_ (condition : Expression) (body : Statement)
  | doWhile (body : Statement) (condition : Expression)
  | for_ (start condition step : Option Expression) (body : Statement)
  | forEach (counter lookup : Name) (body : Statement)
  | break_
  | continue_
  | next
  | nextFile
  | exit (e : Option Expression)
  | return_ (e : Option Expression)
  | delete (lookup : Name) (indices : Option (List Expression))

/-- Whether a parameter is a datum or a lookup, as far as it is known. -/
inductive Kind where
  | unknown
  | datum
  | lookup
deriving DecidableEq

/-- A function. -/
structure Routine where
  name : String
  parameters : List Kind
  body : Statement

/-- Which records a rule is for. -/
inductive Condition where
  | always
  | when (e : Expression)
  /-- From one record to another; ranges have numbers. -/
  | range (number : Nat) (first last : Expression)

/-- A rule for records. -/
structure Rule where
  condition : Condition
  action : Statement

/-- A program for records. -/
structure Program where
  beginning : List Statement
  rules : List Rule
  ending : List Statement
  functions : List Routine
  /-- The names of its lookups. -/
  lookups : List String

end HermesBundle.Shell.Records
