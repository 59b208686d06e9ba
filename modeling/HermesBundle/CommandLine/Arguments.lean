import HermesBundle.Text.DigitTable
import HermesBundle.Text.Entries

/-! # Arguments — reading a command line by rules

    Rules say which options a command knows and what its operands are.
    An option can be shortened as long as only one is meant, and its value
    can follow an equals sign.  Two dashes end the options.  Arguments
    that no rule knows are returned, for the caller to complain about. -/

namespace HermesBundle.CommandLine

/-- What an option does. -/
inductive OptionKind where
  /-- It takes a value. -/
  | value
  | flag
  /-- It asks for help, which ends the reading. -/
  | help
deriving DecidableEq

/-- An option. -/
structure OptionRule where
  names : List String
  kind : OptionKind
  required : Bool
deriving DecidableEq

/-- How many operands there are. -/
inductive Arity where
  | none
  | one
  /-- One or more. -/
  | many
  /-- One, and all arguments that follow it, options included. -/
  | rest
deriving DecidableEq

/-- The rules of a command. -/
structure Rules where
  program : String
  operand : String
  arity : Arity
  options : List OptionRule

/-- Why arguments are refused. -/
inductive UsageError where
  | ambiguous (argument : Text) (candidates : List String)
  | lacksValue (names : List String)
  | needsNoValue (names : List String) (value : Text)
  | unknownChoice (operand : String) (choice : Text) (choices : List String)
  | lacks (names : List String)
  | unrecognized (arguments : List Text)

/-- The names of an option in a message. -/
def namesText (names : List String) : Text := Text.join "/" (names.map Text.ofString)

/-- A list in a message. -/
def listText (items : List Text) : Text := Text.join ", " items

/-- What is said of an argument. -/
def aboutArgument (name : Text) (complaint : Text) : Text :=
  Text.ofString "argument " ++ name ++ Text.ofString ": " ++ complaint

/-- The wording of an error. -/
def UsageError.message : UsageError → Text
  | .ambiguous argument candidates =>
      Text.ofString "ambiguous option: " ++ argument ++ Text.ofString " could match "
        ++ listText (candidates.map Text.ofString)
  | .lacksValue names => aboutArgument (namesText names) "expected one argument"
  | .needsNoValue names value =>
      aboutArgument (namesText names) (Text.ofString "ignored explicit argument " ++ value.quoted)
  | .unknownChoice operand choice choices =>
      aboutArgument operand (Text.ofString "invalid choice: " ++ choice.quoted
        ++ Text.ofString " (choose from " ++ listText (choices.map fun c : String => Text.quoted c)
        ++ Text.ofString ")")
  | .lacks names =>
      Text.ofString "the following arguments are required: "
        ++ listText (names.map Text.ofString)
  | .unrecognized arguments =>
      Text.ofString "unrecognized arguments: " ++ Text.join " " arguments

/-- Why reading ends without values. -/
inductive Stop where
  | help (program : String)
  | refused (program : String) (error : UsageError)

/-- An option as it stands on the command line. -/
structure Use where
  /-- The rule, unless no rule knows the option. -/
  rule : Option OptionRule
  /-- The full name that is meant. -/
  name : Text
  /-- The value that is part of the same argument. -/
  value : Option Text

/-- What an argument is. -/
inductive Mark where
  | operand
  /-- The two dashes that end the options. -/
  | divider
  | use (u : Use)

/-- An argument and what it is. -/
structure Argument where
  text : Text
  mark : Mark

/-- What has been read. -/
structure Values where
  /-- The operands, once they have been met. -/
  operands : Option (List Text)
  /-- The options in order, by their first names.  An option whose value is
      the divider has none. -/
  options : List (String × Option Text)
  unknown : List Text

namespace Rules

/-- All names of options, each with its rule. -/
def names (rules : Rules) : List (String × OptionRule) :=
  rules.options.flatMap fun rule => rule.names.map fun name => (name, rule)

/-- The option with a full name. -/
def find? (rules : Rules) (name : Text) : Option OptionRule :=
  (rules.names.find? fun (n, _) => Text.ofString n == name).map (·.2)

/-- The dash that starts options. -/
def dash : CodePoint := .ofChar '-'

/-- The argument that ends the options. -/
def divider : Text := [dash, dash]

/-- An argument split at its first equals sign. -/
def splitValue (t : Text) : Text × Option Text :=
  let name := t.takeWhile (· != .ofChar '=')
  if name.length == t.length then (t, none) else (name, some (t.drop (name.length + 1)))

/-- The options an argument can be short for. -/
def candidates (rules : Rules) (t : Text) : List (String × Use) :=
  if (t.drop 1).head? == some dash then
    let (lead, value) := splitValue t
    rules.names.filterMap fun (name, rule) =>
      if Text.startsWith name lead then some (name, ⟨some rule, name, value⟩) else none
  else
    rules.names.filterMap fun (name, rule) =>
      if Text.ofString name == t.take 2 then
        some (name, ⟨some rule, name, some (t.drop 2)⟩)
      else if Text.startsWith name t then some (name, ⟨some rule, name, none⟩)
      else none

/-- Whether an argument is a negative number, which is no option.  Digits
    of all scripts count, and a line feed may follow. -/
def isNegativeNumber (t : Text) : Bool :=
  let number := if t.getLast? == some (.ofNat 0x0A) then t.dropLast else t
  let digits := (number.drop 1).takeWhile CodePoint.isDecimal
  match number.drop (digits.length + 1) with
  | [] => !digits.isEmpty
  | point :: fraction =>
      point = .ofChar '.' && !fraction.isEmpty && fraction.all CodePoint.isDecimal

/-- What an argument before the divider is. -/
def markOf (rules : Rules) (t : Text) : Except UsageError Mark :=
  if t.head? != some dash || t.length == 1 then .ok .operand
  else
    match rules.find? t with
    | some rule => .ok (.use ⟨some rule, t, none⟩)
    | none =>
        let (name, value) := splitValue t
        match if value.isSome then rules.find? name else none with
        | some rule => .ok (.use ⟨some rule, name, value⟩)
        | none =>
            match rules.candidates t with
            | [(_, u)] => .ok (.use u)
            | [] =>
                if isNegativeNumber t || t.any (· == .ofChar ' ') then .ok .operand
                else .ok (.use ⟨none, t, none⟩)
            | several => .error (.ambiguous t (several.map (·.1)))

/-- The arguments with what they are. -/
def marked (rules : Rules) : List Text → Except UsageError (List Argument)
  | [] => .ok []
  | t :: rest =>
      if t == divider then
        .ok (⟨t, .divider⟩ :: rest.map fun u => ⟨u, .operand⟩)
      else do
        let mark ← rules.markOf t
        let more ← marked rules rest
        return ⟨t, mark⟩ :: more

end Rules

namespace Argument

/-- Whether an argument is an option. -/
def isUse (a : Argument) : Bool :=
  match a.mark with
  | .use _ => true
  | _ => false

/-- Whether an argument is an operand. -/
def isOperand (a : Argument) : Bool :=
  match a.mark with
  | .operand => true
  | _ => false

/-- Whether an argument is the divider. -/
def isDivider (a : Argument) : Bool :=
  match a.mark with
  | .divider => true
  | _ => false

end Argument

/-- How many arguments the operands take up at the start of some; none if
    there is no operand there. -/
def operandSpan (arity : Arity) (arguments : List Argument) : Nat :=
  let lead := (arguments.takeWhile Argument.isDivider).length
  match arguments.drop lead with
  | first :: more =>
      if !first.isOperand then 0
      else
        match arity with
        | .none => 0
        | .one => lead + 1 + (more.takeWhile Argument.isDivider).length
        | .many => lead + 1 + (more.takeWhile fun a => !a.isUse).length
        | .rest => arguments.length
  | [] => 0

/-- Operands without the first divider among them. -/
def withoutDivider (arity : Arity) (texts : List Text) : List Text :=
  if arity = .rest then texts else texts.erase Rules.divider

/-- The options that an argument with a value of its own stands for.
    Flags of one letter can be written together. -/
def expandUse (rules : Rules) (rule : OptionRule) (name : Text) :
    Text → Except UsageError (List (OptionRule × Text))
  | [] =>
      if rule.kind = .value then .ok [(rule, [])] else .error (.needsNoValue rule.names [])
  | c :: rest =>
      if rule.kind = .value then .ok [(rule, c :: rest)]
      else if (name.drop 1).head? == some Rules.dash then
        .error (.needsNoValue rule.names (c :: rest))
      else
        match rules.find? [Rules.dash, c] with
        | none => .error (.needsNoValue rule.names (c :: rest))
        | some next =>
            if rest.isEmpty then
              if next.kind = .value then .error (.lacksValue next.names)
              else .ok [(rule, []), (next, [])]
            else do
              let more ← expandUse rules next [Rules.dash, c] rest
              return (rule, []) :: more

/-- Records options; one that asks for help ends the reading. -/
def record (rules : Rules) (values : Values) :
    List (OptionRule × Text) → Except Stop Values
  | [] => .ok values
  | (rule, value) :: rest =>
      if rule.kind = .help then .error (.help rules.program)
      else
        record rules
          { values with options := values.options ++
              [(rule.names.head?.getD "", if value == Rules.divider then none else some value)] }
          rest

/-- Reads marked arguments; `fuel` is more than their number. -/
def readMarked (rules : Rules) : Nat → List Argument → Values → Except Stop Values
  | 0, _, values => .ok values
  | fuel + 1, arguments, values =>
      let refuse := fun e => Except.error (Stop.refused rules.program e)
      let before := arguments.takeWhile fun a => !a.isUse
      let span := if values.operands.isNone then operandSpan rules.arity arguments else 0
      let taken := (arguments.take span).map (·.text)
      let withOperands :=
        { values with operands := some (withoutDivider rules.arity taken) }
      match arguments.drop before.length with
      | [] =>
          let left := (arguments.drop span).map (·.text)
          let values := if span = 0 then values else withOperands
          .ok { values with unknown := values.unknown ++ left }
      | option :: after =>
          if span != 0 && !before.isEmpty then
            readMarked rules fuel (arguments.drop span) withOperands
          else
            let values := { values with unknown := values.unknown ++ before.map (·.text) }
            match option.mark with
            | .use ⟨some rule, name, some value⟩ =>
                match expandUse rules rule name value with
                | .error e => refuse e
                | .ok uses => do
                    let values ← record rules values uses
                    readMarked rules fuel after values
            | .use ⟨some rule, _, none⟩ =>
                if rule.kind = .value then
                  match after with
                  | next :: more =>
                      if next.isOperand then do
                        let values ← record rules values [(rule, next.text)]
                        readMarked rules fuel more values
                      else refuse (.lacksValue rule.names)
                  | [] => refuse (.lacksValue rule.names)
                else do
                  let values ← record rules values [(rule, [])]
                  readMarked rules fuel after values
            | _ =>
                readMarked rules fuel after
                  { values with unknown := values.unknown ++ [option.text] }

/-- What required arguments are missing. -/
def missing (rules : Rules) (values : Values) : List String :=
  (if values.operands.isNone && rules.arity != .none then [rules.operand] else [])
    ++ (rules.options.filter fun rule =>
        rule.required && !values.options.any fun (name, _) => rule.names.head? == some name).map
      fun rule => "/".intercalate rule.names

/-- Reads arguments by rules. -/
def read (rules : Rules) (arguments : List Text) : Except Stop Values :=
  match rules.marked arguments with
  | .error e => .error (.refused rules.program e)
  | .ok marked =>
      match readMarked rules (marked.length + 1) marked ⟨none, [], []⟩ with
      | .error stop => .error stop
      | .ok values =>
          match missing rules values with
          | [] => .ok values
          | names => .error (.refused rules.program (.lacks names))

namespace Values

/-- What an option was given last, if it was given. -/
def given? (values : Values) (name : String) : Option (Option Text) :=
  (values.options.reverse.find? fun (n, _) => n == name).map (·.2)

/-- The value an option was given last. -/
def option? (values : Values) (name : String) : Option Text := (values.given? name).join

/-- Whether an option was given. -/
def isGiven (values : Values) (name : String) : Bool := (values.given? name).isSome

/-- The operands. -/
def allOperands (values : Values) : List Text := values.operands.getD []

end Values

end HermesBundle.CommandLine
