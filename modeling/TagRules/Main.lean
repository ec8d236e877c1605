import Std.Time.Zoned
import TagRules.Command.Run

/-!
# The program

Arguments, files and the time come from the system. Text is coloured on a terminal, unless the
environment asks for none.
-/

namespace TagRules.Program

/-- Why the system refused a file. -/
def refusal : IO.Error → FileError
  | .noFileOrDirectory .. => .missing
  | .inappropriateType _ code _ => if code = 20 then .notDirectory else .directory
  | e => .other (toString e)

/-- Access to the files of the system. -/
def files : FileAccess IO where
  read path := do
    try
      return .ok (← IO.FS.readFile path)
    catch e => return .error (refusal e)
  write path text := do
    try
      IO.FS.writeFile path text
      return .ok ()
    catch e => return .error (refusal e)

/-- The offset of the local clock in minutes, zero where no time zone is known. -/
def offsetMinutes (t : Std.Time.Timestamp) : IO Int := do
  try
    let rules ← Std.Time.Database.defaultGetLocalZoneRules
    return (rules.findLocalTimeTypeForTimestamp t).getTimeZone.offset.second.val / 60
  catch _ => return 0

/-- The time. -/
def world : IO World := do
  let t ← Std.Time.Timestamp.now
  return {
    now := ⟨t.val.second.val, t.val.nano.val.toNat⟩
    offsetMinutes := ← offsetMinutes t
    ticks := ← IO.monoNanosNow }

end TagRules.Program

/-- Run the program. -/
def main (args : List String) : IO UInt32 := do
  let out ← IO.getStdout
  let err ← IO.getStderr
  let colour := (← out.isTty) && (← IO.getEnv "NO_COLOR").isNone
  let world ← TagRules.Program.world
  let outcome ← TagRules.Command.perform TagRules.Program.files world colour args
  out.putStr outcome.out
  err.putStr outcome.err
  return outcome.code.toUInt32
