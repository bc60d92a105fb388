/-
  Typewright/Package/FileTree.lean
  ================================
  **File trees** — directories and files below one root, and what can go wrong
  when a file is written or read.

  A path is the list of names from the root down.  It is reached by a route: the
  steps between the slashes of a text, some of which only ask for a directory to
  be there.  Writing a file makes the directories above it, from the top; those
  made stay, even if the file itself cannot be written.
-/
import Typewright.Keyed
import Typewright.Text.Pieces

namespace Typewright

inductive FileFault where
  /-- A directory is to be made where a file is. -/
  | occupied
  /-- Something is to be found below a file. -/
  | notADirectory
  /-- A directory is used as a file. -/
  | isADirectory
  /-- A name or a route is too long. -/
  | invalidName
  /-- There is no such file. -/
  | missing
deriving DecidableEq

def FileFault.message : FileFault → String
  | .occupied => "entity already exists"
  | .notADirectory => "not a directory"
  | .isADirectory => "is a directory"
  | .invalidName => "invalid filename"
  | .missing => "entity not found"

inductive TreeEntry where
  | directory
  | file (content : String)
deriving DecidableEq

/-- The names from the root down; the root itself has none. -/
abbrev TreePath := List String

def TreePath.text (path : TreePath) : String := "/".intercalate path

/-! ### Routes -/

abbrev Route := List String

/-- Whether a step leads nowhere: nothing between two slashes, or a dot. -/
def isIdleStep (step : String) : Bool := step = "" ∨ step = "."

/-- Whether a step is a name; all other steps can only be taken in a directory. -/
def isNameStep (step : String) : Bool := !isIdleStep step ∧ step ≠ ".."

/-- One step from a directory: nowhere, up or down. -/
def TreePath.step (above : TreePath) (step : String) : TreePath :=
  if isIdleStep step then above else if step = ".." then above.dropLast else above ++ [step]

namespace Route

def ofText (text : String) : Route := (Text.pieces (· == '/') text.toList).map String.ofList

def text (route : Route) : String := "/".intercalate route

/-- A route up to its last step that leads somewhere. -/
def trimEnd (route : Route) : Route := (route.reverse.dropWhile isIdleStep).reverse

/-- A route between its first and its last step that lead somewhere. -/
def trim (route : Route) : Route := trimEnd (route.dropWhile isIdleStep)

/-- The route to the directory in which a route ends. -/
def parent (route : Route) : Route := trimEnd (trimEnd route).dropLast

def destination (route : Route) : TreePath := route.foldl TreePath.step []

/-- The last step that is more than a slash at the end, if it is a name. -/
def lastName? (route : Route) : Option String :=
  (route.reverse.dropWhile (· = "")).head?.filter isNameStep

def endsInSlash (route : Route) : Bool := route.getLast? = some ""

end Route

def maxNameSize : Nat := 255

def maxRouteSize : Nat := 4095

def Route.fits (route : Route) : Bool := route.text.utf8ByteSize ≤ maxRouteSize

/-! ### Trees -/

/-- Directories and files below a root, which is always there. -/
structure FileTree where
  entries : List (TreePath × TreeEntry) := []

namespace FileTree

def get? (tree : FileTree) (path : TreePath) : Option TreeEntry :=
  if path = [] then some .directory else Keyed.get? path tree.entries

def put (tree : FileTree) (path : TreePath) (entry : TreeEntry) : FileTree :=
  ⟨Keyed.put path entry tree.entries⟩

def findFrom (tree : FileTree) (above : TreePath) : List String → Except FileFault TreeEntry
  | [] => (tree.get? above).elim (.error .missing) .ok
  | step :: rest =>
    match tree.get? above with
    | some (.file _) => .error .notADirectory
    | some .directory =>
      if maxNameSize < step.utf8ByteSize then .error .invalidName
      else tree.findFrom (above.step step) rest
    | none => .error .missing

def find (tree : FileTree) (route : Route) : Except FileFault TreeEntry :=
  if route.fits then tree.findFrom [] route else .error .invalidName

def read (tree : FileTree) (route : Route) : Except FileFault String := do
  match ← tree.find route with
  | .file content => return content
  | .directory => throw .isADirectory

/-- Makes directories from `above` down, where the steps find none.  A file in the
    way is found as one when its own directory is made: that of the last step, or
    of every step once one was `made`. -/
def makeDirectories (tree : FileTree) (above : TreePath) (made : Bool) :
    List String → FileTree × Option FileFault
  | [] => (tree, none)
  | step :: rest =>
    let path := above.step step
    if maxNameSize < step.utf8ByteSize then (tree, some .invalidName)
    else
      match tree.get? path with
      | some .directory => tree.makeDirectories path made rest
      | some (.file _) =>
        (tree, some (if made || rest.isEmpty then .occupied else .notADirectory))
      | none => (tree.put path .directory).makeDirectories path true rest

/-- Makes the directory at the end of a route and those above it. -/
def makeDirectory (tree : FileTree) (route : Route) : FileTree × Option FileFault :=
  if route.trimEnd.fits then tree.makeDirectories [] false route.trimEnd
  else (tree, some .invalidName)

/-- What is wrong with writing a file at the end of a route, given that the
    directories above it are there.  A slash at the end asks for a directory. -/
def writeFault (tree : FileTree) (route : Route) : Option FileFault :=
  match route.lastName? with
  | none => some (match tree.find route with | .error fault => fault | .ok _ => .isADirectory)
  | some name =>
    if !route.fits then some .invalidName
    else if route.endsInSlash then some .isADirectory
    else if maxNameSize < name.utf8ByteSize then some .invalidName
    else if tree.get? route.destination = some .directory then some .isADirectory
    else none

def write (tree : FileTree) (route : Route) (content : String) : FileTree × Option FileFault :=
  match tree.makeDirectory route.parent with
  | (tree, some fault) => (tree, some fault)
  | (tree, none) =>
    match tree.writeFault route with
    | some fault => (tree, some fault)
    | none => (tree.put route.destination (.file content), none)

end FileTree

end Typewright
