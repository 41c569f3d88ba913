import LogSieve.FileFault
import LogSieve.OrderedMap

/-!
This module contains the folder in which a command runs, with its files and empty subfolders.
-/

namespace LogSieve

inductive FileEntry where
  | file (bytes : ByteArray)
  | directory

instance : DecidableEq FileEntry
  | .file a, .file b =>
    match ByteArray.decEq a b with
    | isTrue h => isTrue (congrArg FileEntry.file h)
    | isFalse h => isFalse fun e => h (FileEntry.file.inj e)
  | .directory, .directory => isTrue rfl
  | .file _, .directory => isFalse nofun
  | .directory, .file _ => isFalse nofun

structure Folder where
  entries : List (String × FileEntry)

namespace Folder

def parts (path : String) : List String := (path.splitOn "/").filter fun s => s != "" && s != "."

def isDirectoryPath (path : String) : Bool := path.toList.getLast? == some '/'

def read (folder : Folder) (path : String) : Except FileFault String :=
  match parts path with
  | [] => .error .isADirectory
  | [name] =>
    match valueAt? name folder.entries with
    | none => .error .notFound
    | some .directory => .error .isADirectory
    | some (.file bytes) =>
      if isDirectoryPath path then .error .notADirectory
      else
        match String.fromUTF8? bytes with
        | some text => .ok text
        | none => .error .notText
  | name :: _ =>
    match valueAt? name folder.entries with
    | some (.file _) => .error .notADirectory
    | _ => .error .notFound

def write (folder : Folder) (path text : String) : Except FileFault Folder :=
  match parts path with
  | [] => .error .isADirectory
  | [name] =>
    match valueAt? name folder.entries with
    | some .directory => .error .isADirectory
    | some (.file _) =>
      if isDirectoryPath path then .error .notADirectory
      else .ok ⟨insertAt name (.file text.toUTF8) folder.entries⟩
    | none =>
      if isDirectoryPath path then .error .isADirectory
      else .ok ⟨insertAt name (.file text.toUTF8) folder.entries⟩
  | name :: rest =>
    match valueAt? name folder.entries with
    | some (.file _) => .error .notADirectory
    | some .directory =>
      if rest.length ≠ 1 then .error .notFound
      else if isDirectoryPath path then .error .isADirectory
      else .ok folder
    | none => .error .notFound

def changesSince (folder older : Folder) : List (String × String) :=
  folder.entries.filterMap fun (name, entry) =>
    match entry with
    | .directory => none
    | .file bytes =>
      if valueAt? name older.entries = some (.file bytes) then none
      else (String.fromUTF8? bytes).map (name, ·)

end Folder

end LogSieve
