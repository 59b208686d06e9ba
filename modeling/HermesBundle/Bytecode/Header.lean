import HermesBundle.BuildError

/-! # Bytecode headers — recognising compiled bundles

    A bytecode file starts with eight magic bytes and the version of the
    bytecode, four bytes with the least significant one first. -/

namespace HermesBundle.Bytecode

/-- The bytes every bytecode file starts with. -/
def magic : Bytes := [0xC6, 0x1F, 0xBC, 0x03, 0xC1, 0x03, 0x19, 0x1F]

/-- What a header says. -/
structure Header where
  magic : Bytes
  version : Nat
deriving DecidableEq

/-- Whether the header is that of bytecode. -/
def Header.isHermes (h : Header) : Bool := h.magic == Bytecode.magic

/-- The number whose bytes are given, the least significant one first. -/
def littleEndian : Bytes → Nat
  | [] => 0
  | b :: rest => b.toNat + 256 * littleEndian rest

/-- Reads the header of a blob. -/
def parseHeader (blob : Bytes) : Except BuildError Header :=
  if blob.length < headerSize then .error (.headerTooShort none blob.length)
  else .ok ⟨blob.take 8, littleEndian ((blob.drop 8).take 4)⟩

/-- The header bytes of a file with some content. -/
def readHeader (path : Text) (content : Bytes) : Except BuildError Bytes :=
  let head := content.take headerSize
  if head.length < headerSize then .error (.headerTooShort (some path) head.length)
  else .ok head

/-- Whether a content is that of a bytecode file, which short contents are
    not. -/
def isBytecode (content : Bytes) : Bool := content.take magic.length == magic

/-- The bytecode version of a file with some content. -/
def version (path : Text) (content : Bytes) : Except BuildError Nat :=
  if isBytecode content then do
    let head ← readHeader path content
    let header ← parseHeader head
    return header.version
  else .error (.notBytecode path)

/-- The first bytes of a blob, or all but its last ones if the count is
    negative. -/
def firstBytes (blob : Bytes) (count : Int) : Bytes :=
  match count with
  | .ofNat n => blob.take n
  | .negSucc n => blob.take (blob.length - (n + 1))

/-- Bytes in groups of eight, of which the last one may be shorter. -/
def groups (bytes : Bytes) : List Bytes :=
  match bytes with
  | [] => []
  | b :: rest => (b :: rest.take 7) :: groups (rest.drop 7)
termination_by bytes.length
decreasing_by
  simp only [List.length_drop, List.length_cons]
  omega

/-- How many bytes a preview shows. -/
def previewSize : Int := 32

/-- The first bytes of a blob in hexadecimal, with a space between groups
    of eight. -/
def preview (blob : Bytes) (count : Int) : Text :=
  Text.join (Text.ofString " ") ((groups (firstBytes blob count)).map Bytes.hex)

end HermesBundle.Bytecode
