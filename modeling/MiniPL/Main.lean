import MiniPL.CommandLine.Run
/-!
# The command `plint`

Reads the file and the console, and writes the reply.
-/

open MiniPL

/-- Why the system could not read a file. A file in the place of a folder is noticed when the path is
opened, and the error names it; a folder in the place of a file is noticed only at the first read. -/
def unreadable : IO.Error → Unreadable
  | .noFileOrDirectory .. => .missing
  | .noSuchThing .. => .missing
  | .inappropriateType (some _) .. => .notFolder
  | .inappropriateType none .. => .isFolder
  | .invalidArgument _ _ "name too long" => .tooLong
  | e => .other e.toString.toList

/-- The contents of a file. -/
def readContents (name : Text) : IO (Except Unreadable (List UInt8)) := do
  try
    let bytes ← IO.FS.readBinFile (String.ofList name)
    return .ok bytes.toList
  catch e => return .error (unreadable e)

/-- The text of the console. -/
def readConsole : IO Text := do
  let bytes ← (← IO.getStdin).readToEnd
  return bytes.toList

def main (arguments : List String) : IO UInt32 := do
  let request := CommandLine.request (arguments.map String.toList)
  let reply ← match request with
    | .run o => do
      let contents ← readContents o.file
      let input ← if CommandLine.wantsInput contents then readConsole else pure []
      pure (request.reply (fun _ => contents) input)
    | _ => pure (request.reply (fun _ => .error .missing) [])
  (← IO.getStdout).putStr (String.ofList reply.stdout)
  (← IO.getStderr).putStr (String.ofList reply.stderr)
  return reply.exit.toNat.toUInt32
