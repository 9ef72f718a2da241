import PoissonFactor.Failure
import PoissonFactor.Files.Path

/-!
# A tree of files

Files with their bytes and folders, below one current folder. Reading and writing
fail the way a file system does: a name may be missing, be a folder, or be a file
where a folder is needed. The root and the folders above the current one are there,
empty but for what the tree holds.
-/

namespace PoissonFactor

/-- Files by the names that lead to them, and folders that were made. -/
structure FileTree where
  files : List (List (List Char) × List UInt8)
  folders : List (List (List Char))

namespace FileTree

/-- What stands at a place. -/
inductive Entry where
  | missing
  | folder
  | file (bytes : List UInt8)

/-- Does one row of names begin with another? -/
def startsWith : List (List Char) → List (List Char) → Bool
  | _, [] => true
  | [], _ :: _ => false
  | a :: as, b :: bs => a == b && startsWith as bs

/-- What stands at a place. -/
def entry (t : FileTree) (names : List (List Char)) : Entry :=
  match t.files.find? fun f => f.1 == names with
  | some f => .file f.2
  | none =>
    if names.all (· = Path.upName) || names = [Path.rootName]
        || t.folders.any (startsWith · names) || t.files.any fun f => startsWith f.1 names then
      .folder
    else .missing

/-- The most bytes a name may have. -/
def nameLimit : Nat := 255

/-- Follows names from a folder, given by the names that lead to it. The last name need not
exist. `shown` is the path as messages show it. -/
def walk (t : FileTree) (shown : String) (here : List (List Char)) :
    List (List Char) → Except Failure (List (List Char))
  | [] => .ok here
  | n :: rest =>
    match t.entry here with
    | .missing => .error (.fileMissing shown)
    | .file _ => .error (.parentIsFile shown)
    | .folder =>
      if nameLimit < (String.ofList n).utf8ByteSize then .error (.nameTooLong shown)
      else walk t shown (Path.step here n) rest

/-- The place a path leads to. -/
def resolve (t : FileTree) (p : Path) : Except Failure (List (List Char)) :=
  if p.names.any (·.contains '\x00') then .error .nulInPath
  else t.walk p.shown [] p.place

/-- Is there a file or folder at a path? -/
def contains (t : FileTree) (p : Path) : Bool :=
  match t.resolve p with
  | .ok names =>
    match t.entry names with
    | .missing => false
    | _ => true
  | .error _ => false

/-- The bytes of a file. -/
def read (t : FileTree) (p : Path) : Except Failure (List UInt8) := do
  match t.entry (← t.resolve p) with
  | .file bytes => return bytes
  | .folder => .error (.fileIsDirectory p.shown)
  | .missing => .error (.fileMissing p.shown)

/-- Replaces or adds a file. -/
def write (t : FileTree) (p : Path) (bytes : List UInt8) : Except Failure FileTree := do
  let names ← t.resolve p
  match t.entry names with
  | .folder => .error (.fileIsDirectory p.shown)
  | _ => return { t with files := (names, bytes) :: t.files.filter fun f => f.1 != names }

/-- Makes a folder and the folders above it that are missing, the highest first. `above` counts
how far up to go. -/
def makeFolders (t : FileTree) (above : Nat) (p : Path) : Except Failure FileTree :=
  match t.resolve p with
  | .ok names =>
    match t.entry names with
    | .folder => .ok t
    | .file _ => .error (.fileExists p.shown)
    | .missing => .ok { t with folders := names :: t.folders }
  | .error (.fileMissing shown) =>
    match above with
    | 0 => .error (.fileMissing shown)
    | above + 1 =>
      if p.names.isEmpty then .error (.fileMissing shown)
      else
        match makeFolders t above p.parent with
        | .error cause => .error cause
        | .ok t =>
          match t.resolve p with
          | .ok names =>
            match t.entry names with
            | .folder => .ok t
            | .file _ => .error (.fileExists p.shown)
            | .missing => .ok { t with folders := names :: t.folders }
          | .error cause => .error cause
  | .error cause => .error cause

/-- Makes the folder of a path and all above it. -/
def makeParents (t : FileTree) (p : Path) : Except Failure FileTree :=
  t.makeFolders p.names.length p.parent

end FileTree

end PoissonFactor
