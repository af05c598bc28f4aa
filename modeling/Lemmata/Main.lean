import Lemmata.Cli.Needs
import Lemmata.Digest.Uuid
import Std.Time.DateTime.Timestamp

/-!
# The program

Reads what a reply depends on, keeps the store that it leaves, and prints it. No other program is
started and no server is reached, so fetches that need one are answered with a transport failure.
-/

namespace Lemmata.Cli

def readFile (path : String) : IO FileRead := do
  try
    return .content (← IO.FS.readBinFile path).toList
  catch
    | .noFileOrDirectory _ _ text => return .missing text
    | .permissionDenied _ _ text => return .forbidden text
    | failure => return .unreadable (toString failure)

def readFiles (paths : List String) : IO (List (String × FileRead)) :=
  paths.mapM fun path => do return (path, ← readFile path)

def now : IO Moment := do
  let time ← Std.Time.Timestamp.now
  let nanoseconds := time.toNanosecondsSinceUnixEpoch.val
  return { second := nanoseconds.fdiv 1000000000, nano := (nanoseconds.fmod 1000000000).toNat }

/-- Surroundings without any files. -/
def bareSurroundings : IO Surroundings := do
  let now ← now
  let milliseconds := (now.second * 1000).toNat + now.nano / 1000000
  let planBytes ← IO.getRandomBytes 10
  let seed ← IO.getRandomBytes 16
  let up ← IO.monoMsNow
  return {
    home := (← IO.getEnv "HOME").getD ""
    now
    readings := .stillAfter up now
    planId := "plan-" ++ Uuid.hyphenated (Uuid.ordered milliseconds planBytes.toList)
    responseId := fun callId =>
      let random := Sha256.digest (seed.toList ++ Utf8.encode callId)
      "raw-" ++ Uuid.simple (Uuid.ordered milliseconds random)
    read := fun _ => .missing "no such file"
    runProgram := fun _ _ _ => .notStarted "programs are not started"
    exchange := fun _ _ => .failed "there is no network"
    openStore := fun _ => .ok .empty }

/-- Writes the store to its file, with all directories on the way to it. -/
def keepStore (path : String) (store : Store) : IO Unit := do
  if let some parent := Path.parent? path then
    unless parent.isEmpty do
      IO.FS.createDirAll parent
  IO.FS.writeFile path store.written

/-- Prints a reply once its store is kept. -/
def answer (reply : Reply) : IO UInt32 := do
  if let some (path, store) := reply.store then
    keepStore path store
  if let some output := reply.output then
    IO.print output.written
  if let some complaint := reply.complaint then
    IO.eprintln s!"Error: {complaint}"
  return reply.exitCode.toUInt32

end Lemmata.Cli

open Lemmata.Cli in
/-- The configuration is read first, since it says which other files count. -/
def main (arguments : List String) : IO UInt32 := do
  let bare ← bareSurroundings
  let first := bare.withFiles (← readFiles (bare.paths arguments))
  let all := first.withFiles (← readFiles (first.paths arguments))
  try
    answer (all.reply arguments)
  catch failure =>
    IO.eprintln s!"Error: {failure}"
    return 1
