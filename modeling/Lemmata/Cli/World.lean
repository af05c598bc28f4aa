import Lemmata.Cli.Reply
import Lemmata.Digest.Uuid
import Lemmata.Files.Tree
import Lemmata.Run.Session

/-!
# A world for the program

Files and stores in memory, in which the program runs again and again. The first run comes when the
machine has been up for a second, each other a second after the one before, and none of them reaches
a server.
-/

namespace Lemmata.Cli

structure World where
  files : FileTree
  /-- Where relative paths start; the home directory is the same. -/
  here : List String
  stores : List (List String × Store) := []
  /-- How a program ends: the directory and the milliseconds that it has, its name and its
  arguments. -/
  runProgram : Option String → Nat → String → List String → Subprocess.Ending
  start : Moment
  runs : Nat := 0

namespace World

def home (w : World) : String :=
  "/" ++ "/".intercalate w.here

/-- The place of a store; a file that holds something else is none. -/
def storePlace? (w : World) (path : String) : Option (List String) :=
  (w.files.placeForFile? w.here path).filter fun place =>
    ((w.files.file? place).getD []).isEmpty

def openStore (w : World) (path : String) : Except Failure Store :=
  match w.storePlace? path with
  | none => .error (.storage "the store cannot be opened")
  | some place => .ok ((w.stores.lookup place).getD .empty)

def saveStore (w : World) (path : String) (store : Store) : World :=
  match w.storePlace? path with
  | none => w
  | some place => { w with stores := (place, store) :: w.stores }

def surroundings (w : World) : Surroundings :=
  let now : Moment := { w.start with second := w.start.second + w.runs }
  { home := w.home
    now
    readings := .stillAfter ((w.runs + 1) * 1000) now
    planId := s!"plan-{Uuid.hyphenated (Uuid.bytesOfNat w.runs)}"
    responseId := Session.responseId w.runs ""
    read := w.files.read w.here
    runProgram := fun config =>
      w.runProgram (config.whitakersDir w.home) (config.subprocessTimeoutSecs * 1000)
    exchange := fun _ _ => .failed "there is no network"
    openStore := w.openStore }

/-- Runs the program with arguments. -/
def run (w : World) (arguments : List String) : World × Reply :=
  let reply := w.surroundings.reply arguments
  let w := { w with runs := w.runs + 1 }
  match reply.store with
  | some (path, store) => (w.saveStore path store, reply)
  | none => (w, reply)

end World

end Lemmata.Cli
