import ByteMachine.Program.Loading

/-!
# Volumes

A volume is a directory known by the name `@`, with files and empty directories
in it. It answers what reading the file at a path gives, by the rules of a file
system: a path is followed component by component, a component that is missing
ends the search, and one that would have to be looked up in a file is an error, as
is one that is too long to be a name. Of what surrounds the directory only its
parents and the root are known.
-/

set_option autoImplicit false

namespace ByteMachine

/-- What a name in a volume stands for. -/
inductive Volume.Entry where
  | file (bytes : List UInt8)
  | directory
deriving DecidableEq

/-- A directory of named entries. -/
structure Volume where
  entries : List (String × Volume.Entry)
deriving DecidableEq

namespace Volume

/-- Where a path has led so far. -/
inductive Place where
  /-- The volume itself. -/
  | top
  /-- An entry of the volume. -/
  | entry (found : Entry)
  /-- A directory around the volume. -/
  | outside
deriving DecidableEq

/-- The refusal to look up a name in a file. -/
def notADirectory : Reading :=
  .refused "Not a directory (os error 20)"

/-- The refusal to read a directory. -/
def isADirectory : Reading :=
  .refused "Is a directory (os error 21)"

/-- The refusal of a name or path that is too long. -/
def nameTooLong : Reading :=
  .refused "File name too long (os error 36)"

/-- The refusal of a path with a character that ends texts in file systems. -/
def namedWithNul : Reading :=
  .refused "file name contained an unexpected NUL byte"

/-- The greatest number of bytes in a name. -/
def nameLimit : Nat := 255

/-- The greatest number of bytes in a path. -/
def pathLimit : Nat := 4095

/-- What a name stands for in a directory with the given entries. -/
def lookUp (entries : List (String × Entry)) (name : String) : Except Reading Place :=
  if nameLimit < name.utf8ByteSize then .error nameTooLong
  else
    match entries.lookup name with
    | some found => .ok (.entry found)
    | none => .error .absent

/-- Follows one component of a path. An empty component and `.` stay where they
are, `..` goes up. -/
def follow (volume : Volume) (place : Place) (component : String) : Except Reading Place :=
  if place matches .entry (.file _) then .error notADirectory
  else if component = "" ∨ component = "." then .ok place
  else
    match place with
    | .top => if component = ".." then .ok .outside else lookUp volume.entries component
    | .outside => if component = ".." then .ok .outside else lookUp [] component
    | .entry _ => if component = ".." then .ok .top else lookUp [] component

/-- Where a path begins, and the components to be followed from there. -/
def beginning (path : String) : Place × List String :=
  let components (text : List Char) : List String := (text.splitOn '/').map String.ofList
  match path.toList with
  | '@' :: '/' :: rest => (.top, components rest)
  | text => (.outside, components text)

/-- What reading the file at a path gives. -/
def read (volume : Volume) (path : String) : Reading :=
  if path.toList.contains (Char.ofNat 0) then namedWithNul
  else if path = "" then .absent
  else if pathLimit < path.utf8ByteSize then nameTooLong
  else
    let (start, components) := beginning path
    match components.foldlM volume.follow start with
    | .error reading => reading
    | .ok (.entry (.file bytes)) => .content bytes
    | .ok _ => isADirectory

end Volume

end ByteMachine
