import CharLcd.Lists

/-!
# Files

The files that a program can see, as a value: reading and writing have the
results, and the errors, that they have on a real file system.

- `FileStore`: directories, texts, and files that hold no text.
- `FileStore.get?`, `FileStore.put`: what stands at a place (`get?_put_self`,
  `get?_put_of_ne`).
- `FileStore.read`, `FileStore.write`: texts, by the paths of their files.
- `FileError`: why a file cannot be read or written; `FileError.message` in words.
-/

namespace CharLcd

/-- Why a file cannot be read or written. -/
inductive FileError where
  | notFound
  | notDirectory
  | isDirectory
  | nameTooLong
  /-- The path has a NUL in it. -/
  | nulInName
  /-- The content of the file is no text. -/
  | notText
  /-- Any other reason, in words. -/
  | other (reason : String)
  deriving DecidableEq, Repr

namespace FileError

/-- The error in words. -/
def message : FileError → String
  | notFound => "No such file or directory (os error 2)"
  | notDirectory => "Not a directory (os error 20)"
  | isDirectory => "Is a directory (os error 21)"
  | nameTooLong => "File name too long (os error 36)"
  | nulInName => "file name contained an unexpected NUL byte"
  | notText => "stream did not contain valid UTF-8"
  | other reason => reason

end FileError

/-- What stands at a place. -/
inductive Entry where
  | directory
  | text (content : String)
  /-- A file whose bytes are no text. -/
  | bytes
  deriving DecidableEq, Repr

/-- A place: the names on the way from the working directory, last one first. Places
above it begin with steps up, and places on the way from the root with `/`. -/
abbrev Place := List String

/-- Whether a place is there in every file system, as a directory: the working
directory, what is above it, and the root. -/
def Place.alwaysThere (place : Place) : Bool := place.all (· = "..") || place = ["/"]

/-- The entries of a file system, without the places that are always there. -/
structure FileStore where
  entries : List (Place × Entry)
  deriving DecidableEq, Repr

namespace FileStore

def empty : FileStore := ⟨[]⟩

/-- What stands at a place. -/
def get? (s : FileStore) (place : Place) : Option Entry :=
  if place.alwaysThere then some .directory else s.entries.lookup place

/-- One step up from a place. Nothing is above the root. -/
def up : Place → Place
  | [] => [".."]
  | ".." :: rest => ".." :: ".." :: rest
  | ["/"] => ["/"]
  | _ :: rest => rest

/-- Put an entry at a place, instead of what stands there. -/
def put (s : FileStore) (place : Place) (e : Entry) : FileStore :=
  ⟨(place, e) :: s.entries.filter (·.1 ≠ place)⟩

/-- What has been put at a place stands there, unless a directory is always there. -/
theorem get?_put_self (s : FileStore) {place : Place} (e : Entry)
    (h : place.alwaysThere = false) : (s.put place e).get? place = some e := by
  simp [get?, put, h]

/-- Nothing changes at other places. -/
theorem get?_put_of_ne (s : FileStore) {place other : Place} (e : Entry) (h : other ≠ place) :
    (s.put place e).get? other = s.get? other := by
  rw [get?, get?]
  exact congrArg _ (lookup_replace_of_ne s.entries e h)

/-- The size of the longest name, in bytes. -/
def maxNameSize : Nat := 255

/-- The size of the longest path, in bytes. -/
def maxPathSize : Nat := 4095

/-- Go one name further from a place, which must be a directory. -/
def enter (s : FileStore) (place : Place) (name : String) : Except FileError Place :=
  match s.get? place with
  | none => .error .notFound
  | some .directory =>
    if name = "" ∨ name = "." then .ok place
    else if name = ".." then .ok (up place)
    else if maxNameSize < name.utf8ByteSize then .error .nameTooLong
    else .ok (name :: place)
  | some _ => .error .notDirectory

/-- The names in a path. Some are empty if there are slashes at its ends. -/
def namesOf (path : String) : Except FileError (List String) :=
  if path.contains '\x00' then .error .nulInName
  else if path = "" then .error .notFound
  else if maxPathSize < path.utf8ByteSize then .error .nameTooLong
  else .ok ((path.toList.splitOn '/').map String.ofList)

/-- Follow the names in a path, from the root if the first is empty, otherwise from
the working directory. The last name need not exist. -/
def walk (s : FileStore) (names : List String) : Except FileError Place :=
  names.foldlM (enter s) (if names.head? = some "" then ["/"] else [])

/-- The place that a path leads to. -/
def locate (s : FileStore) (path : String) : Except FileError Place := do
  walk s (← namesOf path)

/-- The text of a file. -/
def read (s : FileStore) (path : String) : Except FileError String := do
  match s.get? (← locate s path) with
  | none => throw .notFound
  | some .directory => throw .isDirectory
  | some (.text content) => return content
  | some .bytes => throw .notText

/-- Whether something stands at the end of a path. -/
def exists? (s : FileStore) (path : String) : Bool :=
  match locate s path with
  | .ok place => (s.get? place).isSome
  | .error _ => false

/-- The names that lead to the directory that the last name of a path is in. -/
def directoryOf (names : List String) : List String :=
  let outer := (names.reverse.dropWhile (· = "")).drop 1
  outer.reverse ++ ["."]

/-- Write a text to a file, which is created if it is not there. A path that ends
in a slash is that of a directory, whatever stands there: it is enough to look at the
directory around it. -/
def write (s : FileStore) (path content : String) : Except FileError FileStore := do
  let names ← namesOf path
  let place ← walk s (if names.getLast? = some "" then directoryOf names else names)
  if s.get? place = some .directory then throw .isDirectory
  return s.put place (.text content)

end FileStore

end CharLcd
