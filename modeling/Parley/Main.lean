import Parley.Console.Program
import Parley.Text.Lines

/-!
# The command line

Reads what the program looks at, hands it over, and prints what comes of it. A
line is read whenever a chat asks something.
-/

namespace Parley.Console

/-- The contents of a file, if it can be read. -/
def readFile? (path : String) : IO (Option String) := do
  try return some (← IO.FS.readFile path) catch _ => return none

/-- The names in a folder; none for anything else. -/
def readFolder? (path : String) : IO (Option (List String)) := do
  try
    let entries ← (← IO.FS.realPath path).readDir
    return some (entries.toList.map fun e => e.fileName)
  catch _ => return none

/-- Adds what a path leads to: a file, or a folder and the files in it. -/
def addPath (fs : Files) (path : String) : IO Files := do
  let place := fs.settled (Path.ofString path)
  if let some content ← readFile? path then
    return { fs with entries := (place, .file content) :: fs.entries }
  let some names ← readFolder? path | return fs
  let mut entries := (place, .folder) :: fs.entries
  for name in names do
    if let some content ← readFile? (path ++ "/" ++ name) then
      entries := (place ++ [name], .file content) :: entries
  return { fs with entries := entries }

/-- Adds the folder around a log file. -/
def addLogFolder (fs : Files) (logFile : Option String) : IO Files := do
  let some path := logFile | return fs
  let fs ← addPath fs path
  let folder := (fs.settled (Path.ofString path)).dropLast
  match ← readFolder? ("/" ++ "/".intercalate folder) with
  | some _ => return { fs with entries := (folder, .folder) :: fs.entries }
  | none => return fs

/-- What a command looks at: the flow's files and the folder of its log. -/
def look (command : Command) : IO Files := do
  let here := Path.ofString (← IO.currentDir).toString
  let fs : Files := ⟨here.parts, []⟩
  match command with
  | .version | .help | .demo _ => return fs
  | .validate path _ => addPath fs path
  | .run path _ o => do
    let fs ← addPath fs path
    let settled := (Config.load fs (Path.ofString path)).toOption.bind fun c => c.settings.logFile
    addLogFolder fs (o.logFile.or settled)

/-- Hears lines until the chat is over, and prints what is new. -/
partial def converse (printed : Nat) (c : Chat) : IO Outcome := do
  let out ← IO.getStdout
  out.putStr (String.ofList (c.printed.drop printed))
  out.flush
  let printed := c.printed.length
  match c.status with
  | .ended | .failed _ =>
    let o := Outcome.ofChat c
    return { o with printed := o.printed.drop printed }
  | .asking _ =>
    let typed ← (← IO.getStdin).getLine
    if typed.isEmpty then converse printed (c.hear none)
    else converse printed ((Text.lines typed).foldl (fun c line => c.hear (some line)) c)

/-- Carries out a command. -/
def execute (command : Command) : IO Outcome := do
  match Progress.start .standard (← look command) command with
  | .done o => return o
  | .chatting c => converse 0 c

end Parley.Console

open Parley.Console in
/-- The program. -/
def main (args : List String) : IO UInt32 := do
  let some command := Command.ofArguments args
    | IO.eprintln usageText
      return 2
  let o ← execute command
  IO.print (String.ofList o.printed)
  if o.breakdown.isSome then IO.eprintln "The program broke down."
  return o.exitCode.toUInt32
