import Rangelink.CommandLine.Daemon

/-! # Program

Runs the daemon with the arguments of the command line and prints its log.
-/
namespace Rangelink

def usage : String :=
  "netwatch ranging and network tracking daemon\n\n" ++
  "Usage: netwatch-agent [OPTIONS]\n\n" ++
  "Options:\n" ++
  String.join (OptionName.all.map fun o => "      --" ++ o.text ++ " <VALUE>\n") ++
  "  -h, --help"

def complaint : UsageError → String
  | .badValue => "error: invalid value for an option"
  | .missingValue => "error: a value is required for an option"
  | .surplusValue => "error: an option takes no value"
  | .repeated => "error: an option cannot be used multiple times"
  | .unknownArgument => "error: unexpected argument"
  | .helpRequested => usage

/-- Prints a log, with a pause before each line about the selected network. -/
def printLog (interval : UInt32) (log : List LogLine) : IO Unit :=
  log.forM fun line => do
    match line with
    | .selection _ => IO.sleep interval
    | _ => pure ()
    IO.println ((" INFO " ++ line.message ++ " " ++ line.fields).trimAsciiEnd.toString)

def runProgram (args : List String) : IO UInt32 := do
  match Config.ofArguments args with
  | .error .helpRequested =>
    IO.println usage
    return 0
  | .error e =>
    IO.eprintln (complaint e)
    return 2
  | .ok config =>
    let entropy ← IO.rand 0 (UInt64.size - 1)
    let run := Daemon.run config (UInt64.ofNat entropy)
    printLog (UInt32.ofNat config.eventIntervalMs.toNat) run.log
    match run.complaint with
    | some text => IO.eprintln text
    | none => pure ()
    match run.exitCode with
    | some code => return UInt32.ofNat code
    | none =>
      while true do
        IO.sleep 1000
      return 1

end Rangelink

def main (args : List String) : IO UInt32 := Rangelink.runProgram args
