import DirectoryServer.Ldif.Reader
import DirectoryServer.Store.Folder

set_option autoImplicit false

namespace DirectoryServer

-- Paths start at the folder.
inductive StoreError where
  | unreadable (path : String)
  | malformed (path : String) (line : Nat) (fault : Ldif.Fault)
  | alreadyExists (name : String)
deriving DecidableEq, Repr

def StoreError.message : StoreError → String
  | .unreadable path => s!"I/O error on {path}"
  | .malformed path line fault => s!"{path}:{line}: {fault.message}"
  | .alreadyExists name => s!"entry already exists: {name}"

namespace EntryFile

def extension : String := ".ldif"

def isSeparator (c : Char) : Bool :=
  c = '/' || c = '\\' || c = '\x00'

def fileName (name : String) : String :=
  String.ofList (name.toList.map fun c => if isSeparator c then '_' else c) ++ extension

def joinPath (dir file : String) : String :=
  if dir.isEmpty ∨ dir.toList.getLast? = some '/' then dir ++ file else dir ++ "/" ++ file

def path (dir name : String) : String :=
  joinPath dir (fileName name)

def isEntryFile (file : String) : Bool :=
  extension.toList.isSuffixOf file.toList && file ≠ extension

def persist (folder : Folder) (entry : Entry) : Except StoreError Folder :=
  let file := fileName entry.name
  if entry.name.isEmpty then .error (.malformed file 1 .emptyName)
  else
    match folder.create file (Text.encode entry.display) with
    | .ok folder => .ok folder
    | .error .exists => .error (.alreadyExists entry.name)
    | .error .refused => .error (.unreadable file)

def loadFiles (dir : String) (seen : List (List Char)) :
    List (String × Bytes) → Except StoreError (List Entry)
  | [] => .ok []
  | (file, data) :: rest =>
      match Text.decode data with
      | .error _ => .error (.unreadable (joinPath dir file))
      | .ok text =>
          match Ldif.parseBeside seen text with
          | .error malformed =>
              .error (.malformed (joinPath dir file) malformed.line malformed.fault)
          | .ok entries =>
              (loadFiles dir ((entries.map fun entry => Text.lowerChars entry.name.toList) ++ seen)
                rest).map (entries ++ ·)

def load (dir : String) (folder : Folder) : Except StoreError (List Entry) :=
  loadFiles dir [] (folder.files.filter fun (file, _) => isEntryFile file)

def loadPath (folder : Folder) (path : String) : Except StoreError (List Entry) :=
  match folder.walk? (Folder.steps path) with
  | some (.folder nodes) => load (Folder.trimPathStart path) nodes
  | _ => .error (.unreadable (Folder.trimPath path))

end EntryFile

end DirectoryServer
