/-!
# File names in paths

- `PathName.split?`: a path up to its last component, and that component.
- `PathName.stem`, `PathName.extension?`: the parts of a file name.
- `PathName.withExtension`: a path with another extension.
- `sketchPath`: where the sketch of a design file is exported to.
-/

namespace CharLcd

namespace PathName

/-- Drop the slashes and the components `.` at the end of a path, which is given
last character first. -/
def dropTrailing : List Char → List Char
  | '/' :: rest => dropTrailing rest
  | '.' :: '/' :: rest => dropTrailing rest
  | path => path

/-- A path up to its last component, and that component; `none` when there is no
component or it is not a name. -/
def split? (path : List Char) : Option (List Char × List Char) :=
  let reversed := dropTrailing path.reverse
  let name := (reversed.takeWhile (· ≠ '/')).reverse
  if name = [] ∨ name = ['.'] ∨ name = ['.', '.'] then none
  else some ((reversed.dropWhile (· ≠ '/')).reverse, name)

/-- A file name without its extension. A dot at the very start of the name does
not begin an extension. -/
def stem (name : List Char) : List Char :=
  match name.reverse.dropWhile (· ≠ '.') with
  | [] => name
  | [_] => name
  | _ :: rest => rest.reverse

/-- The part of a file name after its last dot, if a stem comes before the dot. -/
def extension? (name : List Char) : Option (List Char) :=
  match name.reverse.dropWhile (· ≠ '.') with
  | [] => none
  | [_] => none
  | _ => some (name.reverse.takeWhile (· ≠ '.')).reverse

/-- Replace whatever follows the stem of the last component. -/
def replaceExtension (extension path : List Char) : List Char :=
  match split? path with
  | none => path
  | some (directory, name) => directory ++ stem name ++ '.' :: extension

/-- A path with another extension. The path first loses as many characters at its
end as the extension it had; then whatever follows the stem of what is left is
replaced. -/
def withExtension (extension path : List Char) : List Char :=
  match (split? path).bind fun p => extension? p.2 with
  | none => replaceExtension extension path
  | some old => replaceExtension extension (path.take (path.length - old.length))

end PathName

/-- Where the sketch of a design file is exported to. -/
def sketchPath (path : String) : String :=
  String.ofList (PathName.withExtension ['i', 'n', 'o'] path.toList)

end CharLcd
