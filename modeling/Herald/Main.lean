import Herald.Command
import Std.Time.DateTime.Timestamp

/-!
# Herald.Main

The command line as a program. Everything it depends on is read before `Command.run` is asked:
the environment, the files in which settings and templates stand, the clock, and random bits.
-/

namespace Herald.Command

def readEnvironment : IO Settings.Environment.Variables := do
  let content ← IO.FS.readFile "/proc/self/environ"
  return (Text.pieces (· = '\x00') content.toList).filterMap fun entry =>
    (Text.cutAt (· = '=') entry).map fun (name, value) =>
      (String.ofList name, String.ofList value)

def readText (name : String) : IO (List (String × String)) := do
  try
    return [(name, ← IO.FS.readFile name)]
  catch _ => return []

def readClock : IO Timestamp := do
  let t := (← Std.Time.Timestamp.now).toNanosecondsSinceUnixEpoch.val
  return ⟨t / 1000000000, (t % 1000000000).toNat⟩

def newStamp : IO Stamp := do
  let bytes ← IO.getRandomBytes 16
  let bits := bytes.toList.foldl (fun n b => 256 * n + b.toNat) 0
  return ⟨Uuid.ofRandom bits, ← readClock⟩

/-- All that a call of the command depends on. Which file holds the templates is known only when the
settings are. -/
def gather (arguments : List String) : IO Inputs := do
  let environment ← readEnvironment
  let first ← readText ".env"
  let names := match Settings.fullEnvironment environment fun name => first.lookup name with
    | .ok full => Settings.sourceFiles full
    | .error _ => []
  let texts := first ++ (← names.mapM readText).flatten
  let seeds := match Settings.load environment fun name => texts.lookup name with
    | .ok settings => settings.store.seedFile.toList
    | .error _ => []
  let texts := texts ++ (← seeds.mapM readText).flatten
  return { arguments, environment, files := fun name => texts.lookup name, stamp := ← newStamp }

end Herald.Command

/-- Renders the notification that the arguments ask for and prints it. -/
def main (arguments : List String) : IO UInt32 := do
  let outcome := Herald.Command.run (← Herald.Command.gather arguments)
  for line in outcome.output do
    IO.println line
  for complaint in outcome.complaint.toList do
    IO.eprintln complaint
  return outcome.exitCode.toUInt32
