import SpectroRemote.Text.Fields

/-!
# Where configuration files are looked for

A relative path is looked for in the working folder and then in the folders above it, from the
nearest on. Messages show the way from the working folder to the file if it is shorter than the
whole path.

A path is the list of its parts, from the root down.
-/

namespace SpectroRemote.Location

/-- The parts of a path. Empty parts and those that name the folder they are in do not count. -/
def parts (path : String) : List String :=
  ((Text.fields '/' path.toList).map String.ofList).filter fun p => !p.isEmpty && p != "."

/-- Whether a path can lead to a file. One that ends in an empty part, or in one that names the
folder it is in, leads to a folder. -/
def namesFile (path : String) : Bool :=
  match (Text.fields '/' path.toList).getLast? with
  | some last => !last.isEmpty && last != ['.']
  | none => false

def isAbsolute (path : String) : Bool := path.toList.head? == some '/'

/-- A folder and those above it, from the folder up. -/
def ancestors (folder : List String) : List (List String) :=
  (List.range (folder.length + 1)).reverse.map folder.take

/-- The places to which the path of a file leads from a folder, in the order in which to look
there. -/
def candidates (folder : List String) (path : String) : List (List String) :=
  if !namesFile path then []
  else if isAbsolute path then [parts path]
  else (ancestors folder).map (· ++ parts path)

/-- The way from one place to another: up to the last folder that they share, and down. -/
def way : (here there : List String) → List String
  | a :: here, b :: there =>
    if a = b then way here there else ".." :: here.map (fun _ => "..") ++ b :: there
  | here, there => here.map (fun _ => "..") ++ there

def shown (folder place : List String) : String :=
  let relative := way folder place
  if relative.length ≤ place.length then "/".intercalate relative
  else "/" ++ "/".intercalate place

end SpectroRemote.Location
