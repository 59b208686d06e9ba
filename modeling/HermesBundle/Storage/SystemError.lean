import HermesBundle.Text.Quoted

/-! # System errors — why an operation on files failed

    An error has a number, a fixed text and, if it is about one, a
    path. -/

namespace HermesBundle

/-- The causes of system errors. -/
inductive Errno where
  | notPermitted
  | noEntry
  | noDevice
  | tooManyArguments
  | badFormat
  | badDescriptor
  | denied
  | busy
  | occupied
  | notDirectory
  | isDirectory
  | invalid
  | fileTooLarge
  | noSpace
  | brokenPipe
  | nameTooLong
  | notEmpty
  | tooManyLinks
deriving DecidableEq

namespace Errno

/-- The number of a cause. -/
def number : Errno → Nat
  | .notPermitted => 1
  | .noEntry => 2
  | .noDevice => 6
  | .tooManyArguments => 7
  | .badFormat => 8
  | .badDescriptor => 9
  | .denied => 13
  | .busy => 16
  | .occupied => 17
  | .notDirectory => 20
  | .isDirectory => 21
  | .invalid => 22
  | .fileTooLarge => 27
  | .noSpace => 28
  | .brokenPipe => 32
  | .nameTooLong => 36
  | .notEmpty => 39
  | .tooManyLinks => 40

/-- The text of a cause. -/
def text : Errno → String
  | .notPermitted => "Operation not permitted"
  | .noEntry => "No such file or directory"
  | .noDevice => "No such device or address"
  | .tooManyArguments => "Argument list too long"
  | .badFormat => "Exec format error"
  | .badDescriptor => "Bad file descriptor"
  | .denied => "Permission denied"
  | .busy => "Device or resource busy"
  | .occupied => "File exists"
  | .notDirectory => "Not a directory"
  | .isDirectory => "Is a directory"
  | .invalid => "Invalid argument"
  | .fileTooLarge => "File too large"
  | .noSpace => "No space left on device"
  | .brokenPipe => "Broken pipe"
  | .nameTooLong => "File name too long"
  | .notEmpty => "Directory not empty"
  | .tooManyLinks => "Too many levels of symbolic links"

/-- The name of the class of errors with a cause. -/
def className : Errno → String
  | .noEntry => "FileNotFoundError"
  | .denied => "PermissionError"
  | .notPermitted => "PermissionError"
  | .brokenPipe => "BrokenPipeError"
  | .occupied => "FileExistsError"
  | .notDirectory => "NotADirectoryError"
  | .isDirectory => "IsADirectoryError"
  | _ => "OSError"

end Errno

/-- An error of an operation on files. -/
inductive SystemError where
  /-- A cause and the path as the message shows it. -/
  | onPath (errno : Errno) (shown : Text)
  /-- A cause alone. -/
  | bare (errno : Errno)
  /-- A link stands where a directory was to be removed. -/
  | linkInPlace
  /-- None of some directories takes temporary files. -/
  | noTemporary (tried : List Text)
  /-- None of the names that were tried for a directory is free. -/
  | noFreeName

namespace SystemError

/-- An error about a path given by its text. -/
def about (errno : Errno) (path : Text) : SystemError := .onPath errno path.quoted

/-- A cause with its number. -/
def cause (errno : Errno) : Text :=
  Text.ofString "[Errno " ++ Text.ofNat errno.number ++ Text.ofString "] "
    ++ Text.ofString errno.text

/-- The wording of an error. -/
def message : SystemError → Text
  | .onPath errno shown => cause errno ++ Text.ofString ": " ++ shown
  | .bare errno => cause errno
  | .linkInPlace => "Cannot call rmtree on a symbolic link"
  | .noTemporary tried =>
      Text.ofString "[Errno " ++ Text.ofNat Errno.noEntry.number
        ++ Text.ofString "] No usable temporary directory found in ["
        ++ Text.join ", " (tried.map Text.quoted) ++ Text.ofString "]"
  | .noFreeName =>
      Text.ofString "[Errno " ++ Text.ofNat Errno.occupied.number
        ++ Text.ofString "] No usable temporary directory name found"

/-- The name of the class an error belongs to. -/
def className : SystemError → String
  | .onPath errno _ => errno.className
  | .bare errno => errno.className
  | .linkInPlace => "OSError"
  | .noTemporary _ => Errno.noEntry.className
  | .noFreeName => Errno.occupied.className

/-- Whether the error says that a path leads nowhere. -/
def isNoEntry : SystemError → Bool
  | .onPath .noEntry _ => true
  | .bare .noEntry => true
  | .noTemporary _ => true
  | _ => false

end SystemError

end HermesBundle
