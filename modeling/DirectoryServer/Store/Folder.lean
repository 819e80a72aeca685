import DirectoryServer.Text.Utf8

set_option autoImplicit false

namespace DirectoryServer

inductive Node where
  | file (data : Bytes)
  | folder (nodes : List (String × Node))

-- In the order in which the folder was filled.
abbrev Folder := List (String × Node)

namespace Folder

def maxName : Nat := 255

def find? (folder : Folder) (name : String) : Option Node :=
  folder.lookup name

def put (folder : Folder) (name : String) (node : Node) : Folder :=
  match folder with
  | [] => [(name, node)]
  | (other, held) :: rest =>
      if other = name then (name, node) :: rest else (other, held) :: put rest name node

inductive CreateError where
  | exists
  | refused
deriving DecidableEq, Repr

def allowsName (name : String) : Bool :=
  (Text.encode name).length ≤ maxName

def create (folder : Folder) (name : String) (data : Bytes) : Except CreateError Folder :=
  if !allowsName name then .error .refused
  else if (folder.find? name).isSome then .error .exists
  else .ok (folder ++ [(name, .file data)])

def files (folder : Folder) : List (String × Bytes) :=
  (folder.filterMap fun (name, node) =>
    match node with
    | .file data => some (name, data)
    | .folder _ => none).mergeSort fun a b => decide (a.1 ≤ b.1)

-- Two dots lead back to the folder before, the first of `above`.
def walkFrom? (above : List Folder) (folder : Folder) : List String → Option Node
  | [] => some (.folder folder)
  | name :: path =>
      if name = ".." then
        match above with
        | [] => none
        | parent :: above => walkFrom? above parent path
      else
        match folder.find? name with
        | none => none
        | some (.file data) => if path.isEmpty then some (.file data) else none
        | some (.folder nodes) => walkFrom? (folder :: above) nodes path

def walk? (folder : Folder) (path : List String) : Option Node :=
  folder.walkFrom? [] path

-- A folder that is there stays, as does a file where a folder is to be made.
def settle (folder : Folder) (name : String) (node : Node) : Folder :=
  match node, folder.find? name with
  | .file _, some (.folder _) => folder
  | .folder _, some _ => folder
  | _, _ => if allowsName name then folder.put name node else folder

def close (above : List (String × Folder)) (inner : Folder) : Folder :=
  above.foldl (fun inner (name, outer) => outer.put name (.folder inner)) inner

-- A path ends early where it leaves the outermost folder or meets a file.
def putFrom (above : List (String × Folder)) (folder : Folder) (node : Node) :
    List String → Folder
  | [] => close above folder
  | name :: path =>
      if name = ".." then
        match above with
        | [] => folder
        | (held, outer) :: above => putFrom above (outer.put held (.folder folder)) node path
      else if path.isEmpty then close above (folder.settle name node)
      else
        let made := folder.settle name (.folder [])
        match made.find? name with
        | some (.folder nodes) => putFrom ((name, made) :: above) nodes node path
        | _ => close above made

def isStill (step : String) : Bool :=
  step = "" || step = "."

def segments (path : String) : List String :=
  (path.toList.splitOn '/').map String.ofList

def steps (path : String) : List String :=
  (segments path).filter (!isStill ·)

def trimPathStart (path : String) : String :=
  "/".intercalate ((segments path).dropWhile isStill)

def trimPath (path : String) : String :=
  "/".intercalate (((segments path).dropWhile isStill).reverse.dropWhile isStill).reverse

def putPath (folder : Folder) (path : String) (node : Node) : Folder :=
  putFrom [] folder node (steps path)

end Folder

end DirectoryServer
