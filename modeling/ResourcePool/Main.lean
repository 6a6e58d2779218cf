import ResourcePool.CommandLine

/-! The program: it reads the request file, prints or writes the result and reports the log. -/

namespace ResourcePool.CommandLine

/-- Reports the records that are shown without being asked for. -/
def reportRecords (records : List Record) : IO Unit :=
  for r in records do
    if r.level ≠ .debug then IO.eprintln s!"[{r.level.name}] {r.text}"

/-- Reports a failure with its causes. -/
def reportFailure (messages : List String) : IO Unit :=
  for m in messages do IO.eprintln s!"Error: {m}"

/-- The content of a file that can be read. -/
def contentOf? (path : String) : IO (Option String) := do
  try return some (← IO.FS.readFile path)
  catch _ => return none

/-- Prints a document, or writes it to a file; the flag says whether that succeeded. -/
def deliver (output : Option String) (document : String) : IO Bool := do
  match output with
  | none =>
    IO.println document
    return true
  | some path =>
    try
      IO.FS.writeFile path (document ++ "\n")
      return true
    catch _ =>
      IO.eprintln s!"Error: Failed to write result to '{path}'"
      return false

end ResourcePool.CommandLine

open ResourcePool.CommandLine in
/-- Runs the program. -/
def main (args : List String) : IO UInt32 := do
  match Usage.ofArguments args with
  | .version =>
    IO.println versionText
    return 0
  | .help =>
    IO.println helpText
    return 0
  | .wrong =>
    IO.eprintln usageText
    return 2
  | .run request output capacity pretty =>
    let outcome := run request capacity pretty (← contentOf? request)
    reportRecords outcome.records
    match outcome.result with
    | .ok document => return if ← deliver output document then 0 else 1
    | .error messages =>
      reportFailure messages
      return 1
