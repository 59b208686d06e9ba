import HermesBundle.Build.Program

/-! # The compiler — its arguments and its run

    The compiler gets the path to write, the path to read and the flags.
    A run that ends with status 0 is a success whatever it printed. -/

namespace HermesBundle.Build

/-- The arguments for a compilation. -/
def compilerArguments (bytecode bundle : Path) (optimize : Bool) : List Text :=
  [Text.ofString "-emit-binary", Text.ofString "-out", bytecode.toText, bundle.toText,
    Text.ofString "-output-source-map"] ++ if optimize then [Text.ofString "-O"] else []

/-- What a conclusion of the compiler's run means. -/
def compilerOutcome (argv : List Text) (directory : Option Text) :
    Conclusion → Except Failure Unit
  | .notStarted errno =>
      let program := argv.head?.getD []
      .error (.build (.compilerNotStarted program (.about errno program)))
  | .notEntered errno =>
      let program := argv.head?.getD []
      .error (.build (.compilerNotStarted program (.about errno (directory.getD []))))
  | .killed => .error .timedOut
  | .ended status out err _ =>
      if status = 0 then .ok ()
      else
        .error (.build (.compilerFailed argv (some status) (Utf8.decodeReplacing out)
          (Utf8.decodeReplacing err)))

/-- Runs the compiler. -/
def runCompiler (programs : Programs) (argv : List Text) (directory : Option Path)
    (allowed : Option Nat) : Action Unit := do
  if argv.isEmpty then throw (.misuse .unsuitedKind)
  let inside := directory.map Path.toText
  let conclusion ← runProgram programs argv inside [] allowed
  Action.ofExcept id (compilerOutcome argv inside conclusion)

end HermesBundle.Build
