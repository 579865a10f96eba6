import RegisterMap.Files.Name
import RegisterMap.Snapshot.Database

/-! # The workspace of the program

The program reads and writes files by name. A workspace is the part of the file system it can see:
the files with their contents and the directories. Every operation is a function of it, and says in
the words of the system why it fails. -/

namespace RegisterMap.Files

/-- What a file holds. -/
inductive Content where
  | text (s : String)
  | database (db : Snapshot.Database)
  deriving DecidableEq, Repr

/-- A place in the file system: the parts of the way to it. The way of a rooted name begins at the
    root. -/
abbrev Location := List String

/-- The files and directories that can be seen. -/
structure Workspace where
  files : List (Location × Content) := []
  directories : List Location := []
  deriving DecidableEq, Repr

/-- The step of a file operation that failed. -/
inductive Action where
  | opening | reading | makingDirectory
  deriving DecidableEq, Repr

/-- Why it failed. -/
inductive Reason where
  | notFound | isDirectory | notDirectory
  deriving DecidableEq, Repr

/-- A failed file operation and the name it was about. -/
structure FileError where
  action : Action
  name : String
  reason : Reason
  deriving DecidableEq, Repr

def FileError.message (e : FileError) : String :=
  let action := match e.action with
    | .opening => "open"
    | .reading => "read"
    | .makingDirectory => "mkdir"
  let reason := match e.reason with
    | .notFound => "no such file or directory"
    | .isDirectory => "is a directory"
    | .notDirectory => "not a directory"
  s!"{action} {e.name}: {reason}"

/-- Why a database file could not be opened. -/
inductive DatabaseError where
  | file (error : FileError)
  /-- The file holds something else. -/
  | invalid
  deriving DecidableEq, Repr

def DatabaseError.message : DatabaseError → String
  | file e => e.message
  | invalid => "invalid database"

/-- What a name leads to. -/
inductive Place where
  | file (location : Location) (content : Content)
  | directory
  /-- There is nothing, but the directory is there. -/
  | free (location : Location)
  | missing
  /-- A file stands where a directory is needed. -/
  | blocked
  deriving DecidableEq, Repr

namespace Workspace

def contentAt? (w : Workspace) (location : Location) : Option Content :=
  w.files.lookup location

/-- Whether there is a directory at a location: the starting point and what lies above it, what was
    made, and what holds a file. -/
def isDirectory (w : Workspace) (location : Location) : Bool :=
  location.all (fun p => p == ".." || p == "/")
    || w.directories.contains location
    || w.files.any fun f => location.isPrefixOf f.1 && location != f.1

/-- Follows the parts of a name from a directory. -/
def follow (w : Workspace) : (here : Location) → List String → Place
  | _, [] => .directory
  | here, part :: rest =>
    let next := if part = ".." then
        match here.reverse with
        | [] => [".."]
        | last :: above =>
          if last = ".." then here ++ [".."] else if last = "/" then here else above.reverse
      else here ++ [part]
    if w.isDirectory next then w.follow next rest
    else
      match w.contentAt? next, rest with
      | some content, [] => .file next content
      | some _, _ :: _ => .blocked
      | none, [] => .free next
      | none, _ :: _ => .missing

/-- What a name leads to. The empty name leads nowhere. -/
def find (w : Workspace) (name : String) : Place :=
  if name = "" then .missing
  else w.follow (if isRooted name then ["/"] else []) (parts name)

/-- Whether there is anything of that name. -/
def contains (w : Workspace) (name : String) : Bool :=
  match w.find name with
  | .file .. => true
  | .directory => true
  | _ => false

/-- The workspace with a file in place of the former one. -/
def put (w : Workspace) (location : Location) (content : Content) : Workspace :=
  { w with files := (location, content) :: w.files.filter fun f => f.1 != location }

/-- The text of a file. Of a database only the beginning is text. -/
def read (w : Workspace) (name : String) : Except FileError String :=
  match w.find name with
  | .file _ (.text s) => .ok s
  | .file _ (.database _) => .ok (String.ofList (Snapshot.fileMark.map fun b => Char.ofNat b.toNat))
  | .directory => .error ⟨.reading, name, .isDirectory⟩
  | .blocked => .error ⟨.opening, name, .notDirectory⟩
  | _ => .error ⟨.opening, name, .notFound⟩

/-- The location of a file that can be written. -/
def writable (w : Workspace) (name : String) : Except FileError Location :=
  match w.find name with
  | .file location _ => .ok location
  | .free location => .ok location
  | .directory => .error ⟨.opening, name, .isDirectory⟩
  | .blocked => .error ⟨.opening, name, .notDirectory⟩
  | .missing => .error ⟨.opening, name, .notFound⟩

def write (w : Workspace) (name text : String) : Except FileError Workspace :=
  match w.writable name with
  | .error e => .error e
  | .ok location => .ok (w.put location (.text text))

/-- Makes the directories of a list of parts one inside the other; `above` holds those already
    passed. -/
def makeEach (w : Workspace) (rooted : Bool) (above : List String) :
    List String → Except FileError Workspace
  | [] => .ok w
  | part :: rest =>
    let passed := above ++ [part]
    let name := (if rooted then "/" else "") ++ "/".intercalate passed
    match w.find name with
    | .file .. => .error ⟨.makingDirectory, name, .notDirectory⟩
    | .blocked => .error ⟨.makingDirectory, name, .notDirectory⟩
    | .free location =>
      makeEach { w with directories := location :: w.directories } rooted passed rest
    | _ => w.makeEach rooted passed rest

/-- Makes a directory, given by a clean name, and those above it. -/
def makeDirectory (w : Workspace) (name : String) : Except FileError Workspace :=
  w.makeEach (isRooted name) [] (parts name)

/-- Opens a database file. A file that is missing or empty is a new database. -/
def openDatabase (w : Workspace) (name : String) :
    Except DatabaseError (Workspace × Location × Snapshot.Database) :=
  match w.writable name with
  | .error e => .error (.file e)
  | .ok location =>
    match w.contentAt? location with
    | some (.database db) => .ok (w, location, db)
    | some (.text s) =>
      if s = "" then .ok (w.put location (.database {}), location, {})
      else .error .invalid
    | none => .ok (w.put location (.database {}), location, {})

end Workspace

end RegisterMap.Files
