import HermesBundle.Shell.Records.Runner

/-! # Processing — a program that runs programs for records

    The program is an argument or in files; the arguments after it are
    files and assignments. -/

namespace HermesBundle.Shell.Tool

open Records

/-- What the arguments in front of the files say. -/
structure ProcessingPlan where
  /-- The text of the program and how its file is named in complaints. -/
  program : Option (String × Octets)
  assignments : List (String × Octets)
  separator : Option Octets
  operands : List String

/-- What is said when there is no program. -/
def processingUsage : String :=
  "Usage: mawk [Options] [Program] [file ...]\n\nProgram:\n    The -f option value is the name of a file containing program text.\n    If no -f option is given, a \x22--\x22 ends option processing; the following\n    parameters are the program text.\n\nOptions:\n    -f program-file  Program  text is read from file instead of from the\n                     command-line.  Multiple -f options are accepted.\n    -F value         sets the field separator, FS, to value.\n    -v var=value     assigns value to program variable var.\n    --               unambiguous end of options.\n\n    Implementation-specific options are prefixed with \x22-W\x22.  They can be\n    abbreviated:\n\n    -W version       show version information and exit.\n    -W compat        pre-POSIX 2001.\n    -W dump          show assembler-like listing of program and exit.\n    -W help          show this message and exit.\n    -W interactive   set unbuffered output, line-buffered input.\n    -W exec file     use file as program as well as last option.\n    -W posix         stricter POSIX checking.\n    -W random=number set initial random seed.\n    -W sprintf=number adjust size of sprintf buffer.\n    -W usage         show this message and exit.\n"

/-- Adds the text of a file to the program. -/
def addProgramFile (p : ProcessingPlan) (path : String) : Run ProcessingPlan := do
  match ← inputContent path with
  | .error e => Run.quit 2 ("cannot open \x22" ++ path ++ "\x22 (" ++ e.text ++ ")")
  | .ok t =>
      return { p with
        program := some (match p.program with
          | none => (path ++ ": ", t)
          | some (label, before) => (label, before ++ t)) }

/-- Takes the options in front of the files. -/
def takeProcessing : Nat → List String → ProcessingPlan → Run ProcessingPlan
  | 0, rest, p => return { p with operands := rest }
  | _, [], p => return p
  | fuel + 1, argument :: rest, p => do
      let value := fun (t : Octets) (use : String → List String → Run ProcessingPlan) =>
        match t, rest with
        | _ :: _, _ => use (String.ofList t) rest
        | [], v :: rest => use v rest
        | [], [] => do Run.quit 2 ("option " ++ argument ++ " lacks argument")
      match argument.toList with
      | ['-', '-'] => return { p with operands := rest }
      | '-' :: 'F' :: t =>
          value t fun v rest => takeProcessing fuel rest { p with separator := some v.toList }
      | '-' :: 'v' :: t =>
          value t fun v rest => do
            match Work.assignmentOf v.toList with
            | some a => takeProcessing fuel rest { p with assignments := p.assignments ++ [a] }
            | none => Run.quit 2 ("improper assignment: -v " ++ v)
      | '-' :: 'f' :: t =>
          value t fun v rest => do takeProcessing fuel rest (← addProgramFile p v)
      | '-' :: 'W' :: t =>
          value t fun v rest => do
            if v == "usage" || v == "help" then
              Run.printString processingUsage
              let _ ← Run.flush
              throw (.exited 0)
            else takeProcessing fuel rest p
      | '-' :: _ :: _ => do Run.quit 2 ("not an option: " ++ argument)
      | _ => return { p with operands := argument :: rest }

/-- What is wrong with a separator that is given to a program. -/
def separatorFault (t : Octets) : List String :=
  match t with
  | _ :: _ :: _ =>
      match Reader.matcherOf t with
      | .ok _ => []
      | .error e => ["line 0: " ++ Reader.matcherFault e t]
  | _ => []

/-- What is wrong with the separators that are given to a program. -/
def separatorFaults (p : ProcessingPlan) : List String :=
  let given := p.assignments.filter fun (n, _) => n == "FS" || n == "RS"
  (p.separator.toList ++ given.map (·.2)).flatMap fun t => separatorFault (withoutEscapes t)

/-- Complains about what is wrong with a program. -/
def refuseProgram (complaints : List String) : Run Nat := do
  for c in complaints do
    Run.objection c
  if (← Run.openingNumber 1).isNone then
    Run.objection (Work.closeFault Work.outputName .badDescriptor)
  return 2

/-- Runs a program for records. -/
def awk : Tool := fun arguments => do
  let p ← takeProcessing (arguments.length + 1) arguments ⟨none, [], none, []⟩
  let (label, text, operands) ←
    match p.program, p.operands with
    | some (label, t), operands => pure (label, t, operands)
    | none, t :: operands => pure ("", t.toList, operands)
    | none, [] => do
        Run.printString processingUsage
        let _ ← Run.flush
        throw (.exited (if arguments.isEmpty then 0 else 2))
  let faults := separatorFaults p
  match programOf label text, faults with
  | .error complaints, _ => refuseProgram (faults ++ complaints)
  | _, c :: others => refuseProgram (c :: others)
  | .ok program, [] => do
      let called ← Run.called
      let environment ← givenVariables
      let machine := Work.start program ((called :: operands).map String.toList) environment
      let whole : Work Unit := do
        match p.separator with
        | some t => Work.assignShared "FS" (.input (withoutEscapes t))
        | none => pure ()
        for (name, value) in p.assignments do
          Work.assignArgument name value
        Work.runProgram program
      let (_, machine) ← whole.run.run machine
      return machine.status

end HermesBundle.Shell.Tool
