import LiveTrace.Program.Run
/-!
# LiveTrace.Main

The program itself. It looks around (`Program.survey`), runs, and does what the run comes to: it
writes a configuration, prints, and exits. No carrier for channels comes with it, so every
connection is refused.
-/

namespace LiveTrace.Program

/-- The variables that are set, among those that the program looks at. -/
def readEnvironment : IO Environment := do
  let found ← [homeVariable, hostVariable, tokenVariable].mapM fun name => do
    return (← IO.getEnv name).map fun value => (name, value)
  return found.filterMap id

/-- What stands at a path. -/
def readContent (path : String) : IO FileContent := do
  try
    return .bytes (← IO.FS.readBinFile path)
  catch
    | .noFileOrDirectory .. => return .absent
    | _ => return .unreadable

/-- Write a file, with whatever success. -/
def writeText (path text : String) : IO Unit := do
  try
    IO.FS.writeFile path text
  catch _ => return

/-- What the program finds around it, its configuration apart. -/
def survey : IO Setting := do
  let environment ← readEnvironment
  let dotenv ← readContent ".env"
  return {
    environment
    dotenv := dotenv.text?
    home := ""
    file := fun _ => .absent
    terminal := ← (← IO.getStdout).isTty
    time := "" }

/-- The same with the configuration that the command line leads to. -/
def Setting.withConfig (s : Setting) (words : List String) : IO Setting := do
  let path? := do
    let env ← s.variables?
    let i ← (invocation env words).toOption
    return configPath s env i
  match path? with
  | some path =>
    let content ← readContent path
    return { s with file := fun _ => content }
  | none => return s

end LiveTrace.Program

open LiveTrace

/-- Run the program with the words of its command line. -/
def main (words : List String) : IO UInt32 := do
  let setting ← (← Program.survey).withConfig words
  let run := Program.run setting (⟨.new, true⟩ : Exchange) words
  match run.created with
  | some (path, text) => Program.writeText path text
  | none => pure ()
  IO.print run.output
  match run.ending with
  | .failed report => IO.eprintln ("Error: " ++ report.message)
  | _ => pure ()
  return (run.ending.exitCode?.getD 0).toUInt32
