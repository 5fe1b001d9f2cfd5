import MathLint.CommandLine.Basic

/-!
# The program

Reads the settings from the environment, the arguments, the file or the standard input that they
name, and prints the outcome of `CommandLine.run`.
-/

namespace MathLint.Program

/-- The number of a system error, if it has one. -/
def errorNumber : IO.Error → Nat
  | .noFileOrDirectory _ code _ | .inappropriateType _ code _ | .permissionDenied _ code _
  | .resourceExhausted _ code _ | .invalidArgument _ code _ => code.toNat
  | _ => 5

/-- A system error as the reason why a file cannot be read. -/
def readError (e : IO.Error) : ReadError :=
  let number := errorNumber e
  let known : List ReadError := [.missing, .notDirectory, .isDirectory, .nameTooLong]
  match known.find? (·.number == number) with
  | some known => known
  | none => ⟨number, if number == 13 then "Permission denied" else "Input/output error"⟩

/-- The octets of a file. -/
def readFile (path : String) : IO (Except ReadError (List UInt8)) := do
  try
    return .ok (← IO.FS.readBinFile path).toList
  catch e =>
    return .error (readError e)

/-- All octets of a stream, read in pieces. -/
partial def readAll (stream : IO.FS.Stream) (octets : ByteArray) : IO ByteArray := do
  let piece ← stream.read 65536
  if piece.isEmpty then return octets else readAll stream (octets ++ piece)

/-- The text at the standard input. -/
def readStdin : IO (Except Fault String) := do
  return CommandLine.decode (← readAll (← IO.getStdin) .empty).toList

/-- The variables of the environment that settings come from. -/
def readEnvironment : IO Environment := do
  let found ← Settings.variableNames.mapM fun name => do
    return (← IO.getEnv name).map fun value => (name, value)
  return found.filterMap id

/-- The outcome of arguments, with what they name read in. -/
def outcome (settings : Settings) (arguments : List String) :
    IO (Except Fault CommandLine.Outcome) := do
  let path? := (Arguments.read settings arguments).toOption.map (·.path)
  let stdin ← if path? == some "-" then readStdin else pure (.ok "")
  let file ← match path? with
    | some path => if path == "-" then pure (.error .missing) else readFile path
    | none => pure (.error .missing)
  return do CommandLine.run settings readXml (fun _ => file) (← stdin) arguments

end MathLint.Program

open MathLint in
/-- Lints the file that the arguments name. -/
def main (arguments : List String) : IO UInt32 := do
  let outcome ← match Settings.ofEnvironment (← Program.readEnvironment) none with
    | .ok settings => Program.outcome settings arguments
    | .error f => pure (.error f)
  match outcome with
  | .ok o =>
    (← IO.getStdout).putStr o.stdout
    (← IO.getStderr).putStr o.stderr
    return o.exit
  | .error f =>
    (← IO.getStderr).putStrLn f.message
    return 1
