/-
  Typewright/Package/Files.lean
  =============================
  **Writing a package** — one file for every model, then the manifest and the
  package root.

  Files are written in order, and the first that cannot be written ends the
  writing; what was written before stays.  How a single file is written is a
  parameter, so that the order does not depend on it.
-/
import Typewright.Package.FileTree
import Typewright.Package.Support
import Typewright.Render.Complete

namespace Typewright

/-! ### What is written -/

namespace Options

def manifestSource (options : Options) : Source :=
  ⟨"Cargo.toml", "Cargo.toml", options.hooks.package.manifest options.info, []⟩

def rootSource (options : Options) (models : List Source) : Source :=
  let names := (models.map (·.name)).filter (· ≠ "")
  ⟨"src/lib.rs", "src/lib.rs", options.hooks.package.crateRoot options.rules names, []⟩

def supportSources (options : Options) (models : List Source) : List Source :=
  [options.manifestSource, options.rootSource models]

end Options

def writtenModels (models : List Source) : List Source := models.filter (·.name ≠ "")

/-- The files of a package with the given models, in the order in which they are
    written. -/
def Options.packageSources (options : Options) (models : List Source) : List Source :=
  models ++ (if options.supportFiles then options.supportSources models else [])

/-! ### Writing -/

structure WriteError where
  path : String
  cause : FileFault
deriving DecidableEq

/-- How a file is written on a disk: the disk after it, and the fault, if any. -/
abbrev FileWriter (δ : Type) := String → String → δ → δ × Option FileFault

def pathIn (directory file : String) : String :=
  if directory.toList.getLast?.all (· = '/') then directory ++ file else directory ++ "/" ++ file

/-- A path as it is shown: without the slashes and dots around it. -/
def shownPath (path : String) : String := (Route.ofText path).trim.text

section

variable {δ : Type}

/-- Writes files in order, each with a line feed at its end, up to the first that
    fails. -/
def writeSources (write : FileWriter δ) (directory : String) :
    List Source → δ → δ × Option WriteError
  | [], disk => (disk, none)
  | source :: rest, disk =>
    let path := pathIn directory source.file
    match write path (Text.endLine source.text) disk with
    | (disk, none) => writeSources write directory rest disk
    | (disk, some cause) => (disk, some ⟨path, cause⟩)

namespace Options

def generateFiles (options : Options) (write : FileWriter δ) (registry : Registry)
    (directory : String) (disk : δ) : δ × Except WriteError (List Source) :=
  let models := writtenModels (options.generateComplete registry)
  match writeSources write directory (options.packageSources models) disk with
  | (disk, none) => (disk, .ok models)
  | (disk, some error) => (disk, .error error)

end Options

end

def FileTree.writer : FileWriter FileTree := fun path content tree =>
  tree.write (.ofText path) content

/-! ### From a text or a file -/

inductive GenerationError where
  | unreadableModels (cause : LoadError)
  | unreadableFile (cause : FileFault)
  | unwritten (cause : WriteError)

def GenerationError.message : GenerationError → String
  | .unreadableModels cause => "input model parse error: " ++ cause.message
  | .unreadableFile cause => "IO error: " ++ cause.message
  | .unwritten ⟨path, cause⟩ => "failed to write '" ++ shownPath path ++ "': " ++ cause.message

namespace Options

def generateFromText (options : Options) (text : String) : Except GenerationError (List Source) :=
  match Registry.read text with
  | .ok registry => .ok (options.generateComplete registry)
  | .error cause => .error (.unreadableModels cause)

def generateFromFile (options : Options) (tree : FileTree) (path : String) :
    Except GenerationError (List Source) :=
  match tree.read (.ofText path) with
  | .ok text => options.generateFromText text
  | .error cause => .error (.unreadableFile cause)

end Options

end Typewright
