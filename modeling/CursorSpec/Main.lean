/-
The program: a command on the files of the working directory.

Standard input names the files, one to a line; a name that ends in a slash is a directory. The program reads them, runs
the command, shows what it says and writes the files that it made or changed.
-/
import CursorSpec.CommandLine.Commands

namespace CursorSpec.CommandLine

/-- the tree with one named file or directory; what cannot be read is left out -/
def withNamed (t : FileTree) (name : String) : IO FileTree := do
  let path := Path.parse name.toList
  if name.isEmpty then return t
  if name.toList.getLast? = some '/' then return (t.makeDirectory path).toOption.getD t
  match ← (IO.FS.readBinFile name).toBaseIO with
  | .ok bytes => return (t.plant path (.bytes (bytes.toList.map UInt8.toNat))).toOption.getD t
  | .error _ => return t

/-- the files and directories that standard input names -/
def named (root : String) : IO FileTree := do
  let names ← (← IO.getStdin).lines
  names.foldlM withNamed (.empty root.toList)

/-- the directories and files of a tree that another one does not have -/
def save (old new : FileTree) : IO Unit := do
  for (place, item) in new.items do
    let name := (Text.join ['/'] place).str
    if old.item? place ≠ some item then
      match item with
      | .directory => IO.FS.createDirAll name
      | .file (.text t) => IO.FS.writeFile name t.str
      | .file (.bytes bs) => IO.FS.writeBinFile name ⟨(bs.map fun b => b.toUInt8).toArray⟩

/-- what the program says when it stops without an answer -/
def reason : Abort → Text
  | .file .notFound => "no such file or directory"
  | .file .isDirectory => "is a directory"
  | .file .notDirectory => "not a directory"
  | .file .alreadyExists => "file exists"
  | .file .undecodable => "a file is not UTF-8 text"
  | .file .zeroCharacter => "embedded null byte"
  | .yaml _ => "the settings file is not valid YAML"
  | .settings fs => Text.unlines (fs.map fun f => f.complaint.message)
  | .invalidName name => "Invalid name " ++ Text.display name
  | .invalidPattern => "Invalid pattern: '**' can only be an entire path component"
  | .refusedArguments => "arguments hold a NUL character"
  | .markup => "a style ends that has not begun"

end CursorSpec.CommandLine

def main (args : List String) : IO UInt32 := do
  let root := (← IO.getEnv "PWD").getD "."
  let files ← CursorSpec.CommandLine.named root
  let result := CursorSpec.CommandLine.run files (args.map String.toList)
  CursorSpec.CommandLine.save files result.tree
  IO.print result.stdout.str
  if let some a := result.abort then IO.eprintln (CursorSpec.CommandLine.reason a).str
  return result.exit.toUInt32
