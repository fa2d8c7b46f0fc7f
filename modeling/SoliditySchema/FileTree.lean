/-
  SoliditySchema.FileTree — what reading a path gives.

  The program needs no more of a file system than `Files`: for each path the text of the file there, or
  why there is none. A `FileTree` is a file system as a value, seen from its root directory: names are
  looked up one after the other, `.` stays and `..` goes back, and a slash at the end asks for a
  directory. Of what lies outside the root only the null device is known, an empty file.
-/

namespace SoliditySchema

/-- Why a path cannot be read as a text. -/
inductive ReadError where
  | notFound
  | notDirectory
  | isDirectory
  | notPermitted
  | nameTooLong
  | zeroInPath
  | notText
  | other (message : String)
  deriving DecidableEq, Repr

/-- The message of an error. -/
def ReadError.message : ReadError → String
  | .notFound => "No such file or directory (os error 2)"
  | .notDirectory => "Not a directory (os error 20)"
  | .isDirectory => "Is a directory (os error 21)"
  | .notPermitted => "Permission denied (os error 13)"
  | .nameTooLong => "File name too long (os error 36)"
  | .zeroInPath => "file name contained an unexpected NUL byte"
  | .notText => "stream did not contain valid UTF-8"
  | .other message => message

/-- What reading each path gives. -/
abbrev Files := String → Except ReadError String

/-- A file with its bytes, or a directory with its entries. -/
inductive FileNode where
  | file (content : ByteArray)
  | directory (entries : List (String × FileNode))

/-- A file system: the entries of its root directory. -/
structure FileTree where
  entries : List (String × FileNode)

namespace FileNode

/-- The entry of a name, if a directory has it. -/
def nodeAt? (entries : List (String × FileNode)) (name : String) : Option FileNode :=
  (entries.find? fun e => e.1 == name).map Prod.snd

/-- The entries of a directory; a file has none. -/
def entries : FileNode → List (String × FileNode)
  | .file _ => []
  | .directory es => es

/-- Puts a node at a path below a directory, making the directories on the way. -/
def put (node : FileNode) : List String → List (String × FileNode) → List (String × FileNode)
  | [], es => es
  | name :: rest, es =>
    let others := es.filter fun e => e.1 != name
    match rest with
    | [] =>
      match node, nodeAt? es name with
      | .directory [], some (.directory old) => (name, .directory old) :: others
      | _, _ => (name, node) :: others
    | _ :: _ =>
      let below := ((nodeAt? es name).map entries).getD []
      (name, .directory (put node rest below)) :: others

end FileNode

namespace FileTree

/-- The names in a path, between its slashes. -/
def components (path : List Char) : List (List Char) := (path.splitOn '/').filter fun c => !c.isEmpty

/-- The file system of nodes at relative paths, put there in order. -/
def ofNodes (nodes : List (String × FileNode)) : FileTree :=
  ⟨nodes.foldl (fun es n => n.2.put ((components n.1.toList).map String.ofList) es) []⟩

/-- Where a walk along a path stands: at a node, with the directories above it up to the root, or in a
directory outside the root, given by its names if it was reached from the top. -/
inductive Spot where
  | inside (above : List FileNode) (node : FileNode)
  | outside (names : Option (List (List Char)))

/-- The null device. -/
def nullDevice : List (List Char) := ["dev".toList, "null".toList]

/-- The most bytes that a name may have. -/
def longestName : Nat := 255

/-- The most bytes that a path may have. -/
def longestPath : Nat := 4095

/-- One step along a path. -/
def step (spot : Spot) (name : List Char) : Except ReadError Spot :=
  match spot with
  | .inside _ (.file _) => .error .notDirectory
  | .inside above (.directory es) =>
    if name = ['.'] then .ok spot
    else if name = ['.', '.'] then
      match above with
      | [] => .ok (.outside none)
      | parent :: more => .ok (.inside more parent)
    else if longestName < (String.ofList name).utf8ByteSize then .error .nameTooLong
    else
      match FileNode.nodeAt? es (String.ofList name) with
      | some node => .ok (.inside (.directory es :: above) node)
      | none => .error .notFound
  | .outside names =>
    if name = ['.'] then .ok spot
    else if name = ['.', '.'] then .ok (.outside (names.map List.dropLast))
    else if longestName < (String.ofList name).utf8ByteSize then .error .nameTooLong
    else
      match names with
      | some above =>
        if (above ++ [name]).isPrefixOf nullDevice then
          .ok (if above ++ [name] = nullDevice then .inside [] (.file ⟨#[]⟩) else .outside (some (above ++ [name])))
        else .error .notFound
      | none => .error .notFound

/-- The text of the node at the end of a walk. -/
def textOf : Spot → Except ReadError String
  | .inside _ (.file content) =>
    match String.fromUTF8? content with
    | some text => .ok text
    | none => .error .notText
  | .inside _ (.directory _) => .error .isDirectory
  | .outside _ => .error .isDirectory

/-- Reads a path. -/
def read (t : FileTree) (path : String) : Except ReadError String :=
  let cs := path.toList
  if cs.contains '\x00' then .error .zeroInPath
  else if cs = [] then .error .notFound
  else if longestPath < path.utf8ByteSize then .error .nameTooLong
  else do
    let start : Spot := if cs.head? = some '/' then .outside (some []) else .inside [] (.directory t.entries)
    let steps := components cs ++ (if cs.getLast? = some '/' then [['.']] else [])
    textOf (← steps.foldlM step start)

/-- The files of a file system. -/
def files (t : FileTree) : Files := t.read

end FileTree

end SoliditySchema
