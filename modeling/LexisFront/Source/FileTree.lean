import LexisFront.Source.File
import LexisFront.Text.Piece

/-!
# A tree of files

A finite tree of files below a working directory, and what a path leads to in it. A path is
walked component by component, and each step needs a directory to stand in, so a path goes
nowhere from a file, not even to the file itself through a last slash. Outside of the working
directory only a few directories and devices are known. A path that is too long leads nowhere at
all.

Adding a file or a directory makes the directories on the way to it. It is refused where a file
stands in the way, where no name is given, and outside of the working directory.
-/

namespace LexisFront

/-- A finite tree of files. -/
structure FileTree where
  /-- The full path of the working directory. -/
  root : String
  /-- Files with their bytes and directories without, by their components below the root; the
  first one at a place counts. -/
  nodes : List (List String × Option ByteArray) := []
  /-- The components of the known directories outside of the working directory. -/
  outside : List (List String) := []
  /-- The components of known places outside that are neither files nor directories. -/
  devices : List (List String) := []

namespace FileTree

/-- The tree of which nothing is known. -/
def unknown : FileTree := { root := "" }

/-- The most bytes in a path. -/
def maxPathBytes : Nat := 4095

/-- The most bytes in a component of a path. -/
def maxNameBytes : Nat := 255

/-- The components of a path. -/
def components (path : String) : List String :=
  (Text.cut (· == '/') path.toList).map fun piece => String.ofList piece.text

/-- Whether a component of a path stays where it stands. -/
def stays (component : String) : Bool :=
  component == "" || component == "."

/-- Whether a component of a path can name a file or a directory. -/
def isName (component : String) : Bool :=
  !stays component && component != ".." && component.utf8ByteSize ≤ maxNameBytes &&
    !component.toList.contains '\x00'

/-- The place that a component leads to from a place. -/
def next (place : List String) (component : String) : List String :=
  if stays component then place
  else if component == ".." then place.dropLast
  else place ++ [component]

/-- The full path of a place below the root. -/
def fullPath (tree : FileTree) (place : List String) : String :=
  String.intercalate "/" (tree.root :: place)

/-- What stands at a place below the root. -/
def entryAt (tree : FileTree) (place : List String) : Entry :=
  if place.isEmpty then
    .directory
  else
    match tree.nodes.find? (·.1 == place) with
    | some (_, some bytes) => .file (tree.fullPath place) bytes
    | some (_, none) => .directory
    | none => .missing

/-- Walks components outside of the root, through known directories. -/
def walkOutside (tree : FileTree) (place : List String) : List String → Entry
  | [] => .directory
  | component :: rest =>
    if tree.devices.contains place then
      .missing
    else if stays component || component == ".." || tree.outside.contains (next place component) ||
        tree.devices.contains (next place component) then
      tree.walkOutside (next place component) rest
    else
      .missing

/-- Walks components from a place below the root. A step upwards from the root goes to a
directory of which nothing is known. -/
def walk (tree : FileTree) (place : List String) : List String → Entry
  | [] => tree.entryAt place
  | component :: rest =>
    match tree.entryAt place with
    | .directory =>
      if component == ".." && place.isEmpty then
        unknown.walkOutside [] rest
      else
        tree.walk (next place component) rest
    | _ => .missing

/-- What a path leads to. -/
def lookup (tree : FileTree) (path : String) : Entry :=
  if maxPathBytes < path.utf8ByteSize then
    .missing
  else
    match components path with
    | "" :: rest => tree.walkOutside [] rest
    | all => tree.walk [] all

/-- Makes the directories that components lead through from a place below the root, and gives the
place where they end; there is none when they end outside. -/
def enter? (tree : FileTree) (place : List String) :
    List String → Option (FileTree × Option (List String))
  | [] => some (tree, some place)
  | component :: rest =>
    if stays component then
      tree.enter? place rest
    else if component == ".." then
      if place.isEmpty then
        match unknown.walkOutside [] rest with
        | .directory => some (tree, none)
        | _ => none
      else
        tree.enter? place.dropLast rest
    else if isName component then
      match tree.entryAt (place ++ [component]) with
      | .directory => tree.enter? (place ++ [component]) rest
      | .file _ _ => none
      | .missing =>
        { tree with nodes := (place ++ [component], none) :: tree.nodes }.enter?
          (place ++ [component]) rest
    else
      none

/-- The components of a path that something can be added at: the path is not too long and does
not start outside of the root. -/
def addable? (path : String) : Option (List String) :=
  if maxPathBytes < path.utf8ByteSize then
    none
  else
    match components path with
    | "" :: _ => none
    | all => some all

/-- Whether the last component of a path that is not empty is a single dot. -/
def endsInDot (path : String) : Bool :=
  (components path).reverse.find? (· != "") == some "."

/-- The components of a path before the last one that moves. -/
def parents (path : String) : List String :=
  ((components path).filter fun component => !stays component).dropLast

/-- Adds a directory with the directories on the way to it, unless there is one already. A path
that ends in a dot makes only the directories on the way, and then has to lead to a directory. -/
def addDirectory? (tree : FileTree) (path : String) : Option FileTree :=
  match tree.lookup path, addable? path with
  | .directory, _ => some tree
  | .file _ _, _ | .missing, none => none
  | .missing, some all =>
    if endsInDot path then
      match tree.enter? [] (parents path) with
      | none => none
      | some (tree, _) =>
        match tree.lookup path with
        | .directory => some tree
        | _ => none
    else
      (tree.enter? [] all).map (·.1)

/-- Adds a file with the directories on the way to it; a file that is there already is replaced. -/
def addFile? (tree : FileTree) (path : String) (bytes : ByteArray) : Option FileTree :=
  match (addable? path).map List.reverse with
  | none | some [] => none
  | some (name :: reversed) =>
    if isName name then
      match tree.enter? [] reversed.reverse with
      | none | some (_, none) => none
      | some (tree, some place) =>
        match tree.entryAt (place ++ [name]) with
        | .directory => none
        | _ => some { tree with nodes := (place ++ [name], some bytes) :: tree.nodes }
    else
      none

end FileTree

end LexisFront
