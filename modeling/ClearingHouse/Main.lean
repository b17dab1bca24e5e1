import ClearingHouse.CommandLine.Bank
import ClearingHouse.CommandLine.Client
import ClearingHouse.CommandLine.House
import Std.Time.DateTime.Timestamp

/-!
# The command line

The first argument names the program to run, and the rest are the arguments of
the program.  The machine on which it runs has files, a clock, standard input and
output, but no network: nobody listens, and nobody can be reached.
-/

namespace ClearingHouse.CommandLine

def readFile (path : String) : IO (Option String) := do
  try
    return some (← IO.FS.readFile path)
  catch _ => return none

def makeDirectory (path : String) : IO Unit := do
  try IO.FS.createDirAll path
  catch _ => return

def makeFile (directory file : String) : IO Unit := do
  try IO.FS.withFile (directory ++ "/" ++ file) .append fun _ => return
  catch _ => return

def clock : IO Nat := do
  let now ← Std.Time.Timestamp.now
  return now.toSecondsSinceUnixEpoch.val.toNat

def newTransfer : IO TransferId := do
  let noise ← IO.rand 0 (2 ^ 62)
  return TransferId.fresh ((← clock) * 1000) noise

/-- The machine without a network. -/
def machine : Machine IO where
  readFile := readFile
  makeDirectory := makeDirectory
  makeFile := makeFile
  printLine line := IO.println line
  now := IO.monoMsNow
  clock := clock
  pause time := IO.sleep time.toUInt32
  newTransfer := newTransfer
  listen _ _ := return none
  exchange _ _ := return .error .unreachable

/-- Carry out the lines of standard input, until there are none or the client is
to end. -/
partial def converse (session : ClientProgram.Session) :
    IO ClientProgram.Session := do
  let line ← (← IO.getStdin).getLine
  if line.isEmpty then return session
  let (next, goesOn) ← session.step machine line
  if goesOn then converse next else return next

def runClient (arguments : List String) : Program IO Unit := do
  let session ← ClientProgram.start machine arguments
  let last ← converse session
  (last.close machine : IO Unit)

def usage : String := "usage: client | gateway | bank_server, and its arguments"

def run : List String → Program IO Unit
  | "client" :: arguments => runClient arguments
  | "gateway" :: arguments => do
      let _ ← HouseProgram.run machine arguments
      return
  | "bank_server" :: arguments => do
      let _ ← BankProgram.run machine arguments
      return
  | _ => Program.stop usage

end ClearingHouse.CommandLine

/-- Run a program.  One that cannot go on says why, and ends with a failure. -/
def main (arguments : List String) : IO UInt32 := do
  match ← (ClearingHouse.CommandLine.run arguments).run with
  | .ok () => return 0
  | .error message => do
      IO.eprintln s!"Error: {message}"
      return 1
