import Assay.Command.Run

/-!
# The program

The command line at work: the files below the working directory are read, the command is run on
them, and the files that it changed are written.
-/

namespace Assay

/-- The files below a directory, whose names from the working directory are given. -/
partial def readTree (names : List String) (entry : IO.FS.DirEntry) : IO (List (List String × Entry)) := do
  let place := names ++ [entry.fileName]
  if ← entry.path.isDir then
    let below ← (← entry.path.readDir).toList.mapM (readTree place)
    return (place, Entry.directory) :: below.flatten
  else return [(place, .file (← IO.FS.readBinFile entry.path).toList)]

/-- The files below the working directory. -/
def readDisk : IO Disk := do
  let entries ← (← IO.currentDir).readDir
  return ⟨(← entries.toList.mapM (readTree [])).flatten⟩

/-- Writes a file, whose directories are made where they are missing. -/
def writeChange (change : String × List UInt8) : IO Unit := do
  IO.FS.createDirAll (String.intercalate "/" (Path.ofText change.1).parent.names)
  IO.FS.writeBinFile change.1 ⟨change.2.toArray⟩

/-- Writes what a command line left behind, and says what it did. -/
def conclude (disk : Disk) : Command.Ending → IO UInt32
  | .usage u => return u.exitCode.toUInt32
  | .abort text => do
    (← IO.getStderr).putStrLn text
    return 1
  | .completed c => do
    (disk.changes c.disk).forM writeChange
    (← IO.getStdout).putStr c.output
    (← IO.getStderr).putStr c.errors
    return c.exit.toUInt32

end Assay

/-- Runs the command that the arguments ask for. -/
def main (args : List String) : IO UInt32 := do
  let disk ← Assay.readDisk
  match Assay.Command.run disk (← IO.getEnv "CONFORMANCE_DATA_PATH") args with
  | .ok ending => Assay.conclude disk ending
  | .error _ =>
    (← IO.getStderr).putStrLn "the review broke off"
    return 1
