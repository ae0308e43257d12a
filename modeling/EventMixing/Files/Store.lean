import EventMixing.Files.Path
import EventMixing.Table

/-!
# A store of files

A store holds files under the names of their folders and their own, from the working
folder on, and folders that may be empty. A folder is there if it has been made or a file
lies in it. The working folder always is, and so are those around it, which two dots stand
for, and the root; nothing is in these but what is put there. Paths are resolved component
by component.
-/

namespace EventMixing

/-- What a file holds: a text, or a table in columnar form. -/
inductive FileContent where
  | text (s : String)
  | table (t : Table)
deriving DecidableEq

def FileContent.isEmpty : FileContent → Bool
  | text s => s.isEmpty
  | table _ => false

/-- What a path leads to. -/
inductive FileKind where
  | folder
  | file (isEmpty : Bool)
deriving DecidableEq, Repr

/-- Files by their folders and names, in the order of their creation. -/
structure FileStore where
  files : List (List String × FileContent)
  /-- Folders that are there even without a file. -/
  folders : List (List String) := []

namespace FileStore

def empty : FileStore := { files := [] }

def find? (s : FileStore) (key : List String) : Option FileContent :=
  (s.files.find? (·.1 == key)).map (·.2)

/-- Whether a folder is the working folder, one around it, or the root. -/
def isAround (key : List String) : Bool := key.all (· = "..") || key = ["/"]

/-- The folder around a folder. -/
def up (folder : List String) : List String :=
  if folder = ["/"] then folder
  else if isAround folder then folder ++ [".."]
  else folder.dropLast

def isFolder (s : FileStore) (key : List String) : Bool :=
  isAround key || s.folders.contains key
    || s.files.any fun (file, _) => key.isPrefixOf file && key.length < file.length

/-- A file with new content, or a new file. -/
def put (s : FileStore) (key : List String) (content : FileContent) : FileStore :=
  if s.files.any (·.1 == key) then
    { s with files := s.files.map fun file => if file.1 == key then (key, content) else file }
  else { s with files := s.files ++ [(key, content)] }

/-! ## Setting up a store -/

/-- A file put where components lead from a folder, the folders on the way being made. -/
def placeFrom (content : FileContent) (s : FileStore) (folder : List String) :
    List String → FileStore
  | [] => s
  | [name] => s.put (folder ++ [name]) content
  | name :: rest =>
    if name = "" ∨ name = "." then placeFrom content s folder rest
    else if name = ".." then placeFrom content s (up folder) rest
    else placeFrom content { s with folders := s.folders ++ [folder ++ [name]] }
      (folder ++ [name]) rest

def ofFiles (files : List (Path × FileContent)) : FileStore :=
  files.foldl (fun s (p, content) => placeFrom content s [] p.components) empty

/-! ## Resolving a path -/

/-- Where a path leads. -/
inductive Target where
  | folder (key : List String)
  | file (key : List String) (content : FileContent)
  /-- Nothing yet, in a folder that is there. -/
  | vacant (key : List String)
  /-- A file, or nothing yet, that the slash behind its name takes for a folder. -/
  | slashed (isFile : Bool)
deriving DecidableEq

/-- Where the components lead from a folder, the last of them with a slash behind it or
not. -/
def walk (s : FileStore) (slash : Bool) (folder : List String) :
    List String → Except FileFault Target
  | [] => .ok (.folder folder)
  | name :: rest =>
    if name = "" ∨ name = "." then s.walk slash folder rest
    else if name = ".." then s.walk slash (up folder) rest
    else if Path.maxNameBytes < name.utf8ByteSize then .error .nameTooLong
    else
      let key := folder ++ [name]
      if s.isFolder key then s.walk slash key rest
      else match s.find? key with
        | some content =>
          if !rest.isEmpty then .error .notDirectory
          else if slash then .ok (.slashed true)
          else .ok (.file key content)
        | none =>
          if !rest.isEmpty then .error .notFound
          else if slash then .ok (.slashed false)
          else .ok (.vacant key)

/-- Where a path leads, from the root if it starts with a slash. An empty path leads
nowhere. -/
def resolve (s : FileStore) (p : Path) : Except FileFault Target :=
  match p.fault? with
  | some fault => .error fault
  | none =>
    let components := p.components
    let named := (components.reverse.dropWhile (· = "")).reverse
    let slash := named.length < components.length
    match components with
    | [""] => .error .notFound
    | "" :: _ => s.walk slash ["/"] named
    | _ => s.walk slash [] named

/-! ## Files -/

def read (s : FileStore) (p : Path) : Except FileFault FileContent :=
  match s.resolve p with
  | .error fault => .error fault
  | .ok (.folder _) => .error .isDirectory
  | .ok (.vacant _) | .ok (.slashed false) => .error .notFound
  | .ok (.slashed true) => .error .notDirectory
  | .ok (.file _ content) => .ok content

def write (s : FileStore) (p : Path) (content : FileContent) : Except FileFault FileStore :=
  match s.resolve p with
  | .error fault => .error fault
  | .ok (.folder _) | .ok (.slashed _) => .error .isDirectory
  | .ok (.vacant key) | .ok (.file key _) => .ok (s.put key content)

/-! ## Folders -/

def inspect (s : FileStore) (p : Path) : Except FileFault FileKind :=
  match s.resolve p with
  | .error fault => .error fault
  | .ok (.folder _) => .ok .folder
  | .ok (.vacant _) | .ok (.slashed false) => .error .notFound
  | .ok (.slashed true) => .error .notDirectory
  | .ok (.file _ content) => .ok (.file content.isEmpty)

/-- The names of what lies in a folder, in alphabetical order. -/
def namesIn (s : FileStore) (folder : List String) : List String :=
  let names := (s.folders ++ s.files.map (·.1)).filterMap fun key =>
    if folder.isPrefixOf key then key[folder.length]? else none
  names.eraseDups.mergeSort fun a b => decide (a ≤ b)

def list (s : FileStore) (p : Path) : Except FileFault (List String) :=
  match s.resolve p with
  | .error fault => .error fault
  | .ok (.folder key) => .ok (s.namesIn key)
  | .ok (.vacant _) | .ok (.slashed false) => .error .notFound
  | .ok (.slashed true) | .ok (.file _ _) => .error .notDirectory

end FileStore

end EventMixing
