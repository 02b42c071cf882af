import Chip8.CommandLine.Headless

namespace Chip8.CommandLine

/-- The bytes of a file, or why there are none. -/
def readFile (path : String) : IO (Except RomError Program) := do
  try
    let bytes ← IO.FS.readBinFile path
    return .ok bytes.toList
  catch
    | .noFileOrDirectory .. => return .error (.notFound path)
    | .inappropriateType _ _ "not a directory" =>
      return .error (.unreadable Directory.Refusal.notDirectory.reason)
    | .inappropriateType _ 21 _ =>
      return .error (.unreadable Directory.Refusal.isDirectory.reason)
    | error => return .error (.unreadable (toString error))

/-- Run at the pace of the clock: each cycle waits for its deadline, and a late one moves
the deadlines that follow. -/
partial def runPaced (launch : Headless.Launch) (cycles last deadline : Nat) :
    IO (RunResult × Machine) := do
  let now ← IO.monoNanosNow
  match launch.runner.turn launch.machine cycles .quiet (now - last) with
  | .ended result machine => return (result, machine)
  | .continued machine =>
    let next := deadline + machine.stepTime
    let finished ← IO.monoNanosNow
    if finished < next then
      IO.sleep (UInt32.ofNat ((next - finished) / 1000000))
    runPaced { launch with machine := machine } (cycles + 1) now (max next finished)

def commandName : String := "chip8"

/-- Write what a program ends with, and hand its code to the system. -/
def leave (ended : Exit) : IO UInt32 := do
  IO.print ended.output
  IO.eprint ended.complaint.text
  return UInt32.ofNat ended.code

end Chip8.CommandLine

open Chip8 Chip8.CommandLine in
/-- The headless command line. -/
def main (commandLine : List String) : IO UInt32 := do
  match Options.parse Headless.settings commandLine with
  | .error interruption => leave (Headless.interrupt commandName interruption)
  | .ok options =>
    let program ← readFile options.path
    let seed := (← IO.getRandomBytes 8).foldl (fun seed byte => seed * 256 + byte.toUInt64) 0
    match Headless.launch options (fun _ => program) (.ofSeed seed) with
    | .error complaint => leave (Headless.refuse complaint)
    | .ok launch =>
      let start ← IO.monoNanosNow
      let (result, machine) ← runPaced launch 0 start start
      leave (Headless.finish result machine)
