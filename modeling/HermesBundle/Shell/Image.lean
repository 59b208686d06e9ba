import HermesBundle.Shell.Builtins.Directory

/-! # Images — what starting a file would run

    A file can be started if it may be executed and is in a known format:
    a tool of the system, or a script whose first line names the program
    that interprets it. -/

namespace HermesBundle.Shell

/-- The octets at the start of the tools of the system, as in any binary
    program of a machine with words of 64 bits. -/
def toolMark : Octets :=
  ['\x7F', 'E', 'L', 'F', '\x02', '\x01', '\x01'] ++ List.replicate 9 '\x00'
    ++ ['\x03', '\x00', '>', '\x00']

/-- The content of the file of a tool. -/
def toolContent (name : String) : Octets := toolMark ++ name.toList

/-- The name of the tool whose content is given. -/
def toolNamed (content : Octets) : Option String :=
  let name := content.drop toolMark.length
  if toolMark.isPrefixOf content && !name.isEmpty then some (String.ofList name) else none

/-- How much of a file is looked at for its interpreter. -/
def leadLength : Nat := 256

/-- The octet that ends a text of the system. -/
def isEnd (c : Char) : Bool := c == '\x00'

/-- Octets without the blanks at their end. -/
def withoutFinalBlanks (t : Octets) : Octets := (t.reverse.dropWhile isBlank).reverse

/-- The interpreter and its argument in a line without blanks at its
    end. -/
def splitInterpreter (line : Octets) : Octets × List Octets :=
  let line := line.dropWhile isBlank
  let program := line.takeWhile fun c => !isBlank c
  let argument := (line.drop program.length).dropWhile isBlank
  (program, if argument.isEmpty then [] else [argument])

/-- The interpreter and its argument in what is looked at of a file whose
    first line does not end there.  A name that may be cut off is not
    used; an argument that is cut off is.  Blanks before the end of the
    file are followed by an empty argument. -/
def unendedInterpreter (lead : Octets) : Except Errno (Octets × List Octets) :=
  let body := lead.dropWhile isBlank
  let program := body.takeWhile fun c => !isBlank c && !isEnd c
  let rest := body.drop program.length
  let isWhole := lead.length + 2 < leadLength
  if isWhole || rest.any isEnd then
    if (rest.head?.map isBlank).getD false then
      .ok (program, [(rest.dropWhile isBlank).takeWhile fun c => !isEnd c])
    else .ok (program, [])
  else if rest.isEmpty then .error .badFormat
  else .ok (splitInterpreter (withoutFinalBlanks lead.dropLast))

/-- The interpreter that the first line of a script names, and the
    argument it may have. -/
def interpreterOf (content : Octets) : Except Errno (Octets × List Octets) :=
  match content with
  | '#' :: '!' :: rest =>
      let lead := rest.take (leadLength - 2)
      let line := lead.takeWhile fun c => c != '\n' && !isEnd c
      if (lead.drop line.length).head? == some '\n' then
        let (program, argument) := splitInterpreter (withoutFinalBlanks line)
        if program.isEmpty then .error .badFormat else .ok (program, argument)
      else unendedInterpreter lead
  | _ => .error .badFormat

/-- The start of a file that can be started from a directory. -/
def World.startable (w : World) (here : Location) (path : String) : Except Errno Octets :=
  match w.spot here true path with
  | .error e => .error e
  | .ok (.free _) => .error .noEntry
  | .ok (.found l e) =>
      match e with
      | .file _ _ =>
          let node := w.nodeAt l e
          if node.pipe.isNone && mayExecute node.mode then
            .ok (Octets.ofArray (node.content.extract 0 leadLength))
          else .error .denied
      | _ => .error .denied

/-- What starting a file runs, given the name by which it is called.  An
    interpreter, which is called by its path, can be a script itself, but
    not without end. -/
def World.imageOf (w : World) (here : Location) :
    Nat → String → String → List String → Except Errno Image
  | 0, _, _, _ => .error .tooManyLinks
  | depth + 1, called, path, arguments =>
      match w.startable here path with
      | .error e => .error e
      | .ok content =>
          match toolNamed content with
          | some name => .ok ⟨name, called, arguments, []⟩
          | none =>
              match interpreterOf content with
              | .error e => .error e
              | .ok (program, given) =>
                  let program := String.ofList program
                  w.imageOf here depth program program
                    (given.map String.ofList ++ path :: arguments)

/-- How deep scripts may interpret scripts. -/
def interpreterLimit : Nat := 5

/-- The path of the shell. -/
def shellPath : String := "/bin/sh"

/-- How much of a file a wary starter looks at. -/
def waryLength : Nat := 128

/-- An octet that is not expected in a line of text: a control other than
    those that move the pen, shift the character set or escape. -/
def isUntextual (c : Char) : Bool :=
  let n := c.toNat
  n ≤ 8 || (16 ≤ n && n < 32 && n != 27) || n == 127

/-- Whether the first line of a file does not look like text. -/
def looksBinary (content : Octets) : Bool :=
  ((content.take waryLength).takeWhile (· != '\n')).any isUntextual

/-- What is run when a file is started.  One in no known format is taken for
    a script; a wary starter, such as a shell, does so only if it looks like
    text. -/
def World.imageFor (w : World) (here : Location) (isWary : Bool) (called path : String)
    (arguments : List String) : Except Errno Image :=
  match w.imageOf here interpreterLimit called path arguments with
  | .error .badFormat =>
      if isWary && ((w.startable here path).map looksBinary).toOption.getD false then
        .error .badFormat
      else .ok ⟨"sh", shellPath, path :: arguments, []⟩
  | r => r

/-! ## Sizes -/

/-- The longest string that a program can be given, with its end. -/
def stringLimit : Nat := 131072

/-- How much room there is for what a program is given, by what its stack may
    hold. -/
def givenRoom (stack : Option Nat) : Nat :=
  let most := 6291456
  max stringLimit (match stack with
    | some n => min most (n / 4)
    | none => most)

/-- A program that can be started with a stack that may hold so much, or the
    reason why it cannot. -/
def Image.fitting (stack : Option Nat) (i : Image) : Except Errno Image :=
  let sizes := (i.called :: i.called :: i.arguments).map (fun t => t.length + 1)
    ++ i.environment.map fun (name, value) => name.length + value.length + 2
  let pointers := 8 * sizes.length
  if sizes.any (fun n => stringLimit < n) || givenRoom stack < totalSize sizes + pointers then
    .error .tooManyArguments
  else .ok i

/-- What the stack of a process may hold. -/
def Context.stack (c : Context) : Option Nat :=
  match c.limits.lookup 's' with
  | some limit => limit.soft
  | none => some stackSize

/-- Whether a name is a path rather than a name to be searched for. -/
def isPath (name : String) : Bool := name.toList.contains '/'

/-- The image of the first candidate that can be started.  A candidate that
    is there but cannot be started is what the search fails with. -/
def World.firstImage (w : World) (here : Location) (isWary : Bool) (called : String)
    (arguments : List String) (failure : Errno) : List String → Except Errno Image
  | [] => .error failure
  | path :: rest =>
      match w.imageFor here isWary called path arguments with
      | .ok image => .ok image
      | .error e =>
          let kept := if e = .noEntry || e = .notDirectory then failure else e
          w.firstImage here isWary called arguments kept rest

/-- The search path of a process without one. -/
def standardPath : String := "/bin:/usr/bin"

/-- The image for a name, given a search path. -/
def World.findImage (w : World) (here : Location) (searchPath : Option String) (name : String)
    (arguments : List String) : Except Errno Image :=
  if isPath name then w.imageFor here false name name arguments
  else
    w.firstImage here false name arguments .noEntry
      (candidates (searchPath.getD standardPath) name)

end HermesBundle.Shell
