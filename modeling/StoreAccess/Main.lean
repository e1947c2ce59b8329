import StoreAccess.Report.Access

/-!
# The command line

Prints the access report that the environment asks for. A report that cannot be made is told on
the error output, and the exit code is 1.
-/

namespace StoreAccess.CommandLine

open Report

def randomBits : IO (BitVec 128) := do
  let bytes ← IO.getRandomBytes 16
  return bytes.foldl (fun bits byte => (bits <<< 8) ||| BitVec.ofNat 128 byte.toNat) 0#128

def environment : IO Variables := do
  return {
    principal? := ← IO.getEnv Variables.principalName
    classes? := ← IO.getEnv Variables.classesName
    roles? := ← IO.getEnv Variables.rolesName
    grants? := ← IO.getEnv Variables.grantsName }

/-- Prints the report, or the reason that there is none. -/
def print : IO UInt32 := do
  match text ⟨0⟩ (.ofRandom (← randomBits)) (← environment) with
  | .ok report =>
    IO.print report
    return 0
  | .error error =>
    IO.eprintln (errorLine error)
    return 1

end StoreAccess.CommandLine

def main : IO UInt32 := StoreAccess.CommandLine.print
