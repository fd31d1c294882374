import RouteAtlas.CommandLine.Help
import RouteAtlas.CommandLine.Perform
import RouteAtlas.Workspace.Changes

/-
  The command line.

  The files that there are stand on standard input, one name
  on each line, as in `find . -type f | route-atlas goto q`.
  They are read into a disk, the command is carried out on
  it, and what it changed is written.
-/

------------------------------------------------------------
-- Reading
------------------------------------------------------------

namespace RouteAtlas

namespace Terminal

/- All lines of a stream, without their ends. -/
partial def readLines
    (stream : IO.FS.Stream) :
    IO (List Text) := do
  let line ← stream.getLine
  if line.isEmpty then
    return []
  else
    let name := Text.before '\n' line.toList
    return name :: (← readLines stream)

/- The disk with a file read into it, if it can be read. -/
def readInto
    (disk : Disk)
    (name : Text) :
    IO Disk := do
  try
    let content ← IO.FS.readBinFile (String.ofList name)
    let read := disk.writeFile content.toList (.ofText name)
    return read.toOption.getD disk
  catch _ =>
    return disk

/- The disk that holds the files of the given names. -/
def readDisk
    (names : List Text) :
    IO Disk := do
  let here := (← IO.getEnv "PWD").getD "/"
  let path := Path.ofText here.toList
  let empty : Disk := ⟨.empty, path, []⟩
  let start := (empty.makeDirectory path).toOption.getD empty
  names.foldlM readInto start

------------------------------------------------------------
-- Writing
------------------------------------------------------------

/- Writes a file, and the directories that it needs. -/
def writeFile
    (path : Path)
    (content : Utf8.Bytes) :
    IO Unit := do
  IO.FS.createDirAll (String.ofList path.parent.text)
  IO.FS.writeBinFile (String.ofList path.text)
    (ByteArray.mk content.toArray)

/- Prints lines. -/
def printLines
    (lines : List Text) :
    IO Unit :=
  lines.forM fun line => IO.println (String.ofList line)

/- Prints how the program is used. -/
def refuse
    (refusal : Refusal) :
    IO UInt32 := do
  printLines Command.help
  match refusal with
  | .help => return 0
  | .misuse => return 2

/- Carries out a command, writes and prints. -/
def carryOut
    (command : Command)
    (disk : Disk) :
    IO UInt32 := do
  let (ending, changed) := command.perform disk
  (disk.changes changed).forM fun (path, content) =>
    writeFile path content
  match ending with
  | .ok outcome =>
      printLines outcome.lines
      return outcome.exitCode.toUInt32
  | .error (.refused refusal) => refuse refusal
  | .error (.broken cause) =>
      IO.eprintln (String.ofList cause.message)
      return 1

end Terminal

end RouteAtlas

------------------------------------------------------------
-- The Program
------------------------------------------------------------

open RouteAtlas in
/- Reads the names of files and carries out the command. -/
def main
    (arguments : List String) :
    IO UInt32 := do
  match Command.ofArguments (arguments.map (·.toList)) with
  | .error refusal => Terminal.refuse refusal
  | .ok command =>
      let names ← Terminal.readLines (← IO.getStdin)
      Terminal.carryOut command (← Terminal.readDisk names)
