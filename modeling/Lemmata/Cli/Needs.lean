import Lemmata.Cli.Reply
import Lemmata.Store.Written

/-!
# What a reply needs

The paths that a reply may read. Which ones they are depends on the configuration, so they are asked
for again when it has been read.
-/

namespace Lemmata.Cli.Surroundings

/-- The file that answers a fetch, if it is one of the backend with a directory. -/
def fetchPath? (call : Call) : Option String :=
  if call.tool == Backend.cdsl.tool .fetch then
    FileClient.resolve? none call.endpoint call.params
  else none

/-- The files that answer the fetches of a run. -/
def fetchPaths (s : Surroundings) (config : Config) (i : Invocation) : List String :=
  match i.command with
  | .run q _ =>
    (Planner.build (s.plannerConfig config i q) s.planId q.query).calls.filterMap fetchPath?
  | .plan _ | .trace _ | .prune _ => []

def invocationPaths (s : Surroundings) (i : Invocation) : List String :=
  let config := s.config i.config
  [Path.expandTilde s.home i.config, config.databasePath s.home] ++ i.fixture.toList
    ++ s.fetchPaths config i

/-- The paths that the reply to these arguments may read, as far as that is known. -/
def paths (s : Surroundings) (arguments : List String) : List String :=
  match Request.parse arguments with
  | .ok (.perform i) => s.invocationPaths i
  | .ok (.showHelp _) | .ok .showVersion | .error _ => []

/-- The store that a file holds; a missing file holds an empty one. -/
def storeIn : FileRead → Except Failure Store
  | .missing _ => .ok .empty
  | .content bytes => (Store.ofBytes? bytes).elim (.error (.storage "the file is no store")) .ok
  | .forbidden text | .unreadable text => .error (.storage text)

/-- The same surroundings with these files in them. -/
def withFiles (s : Surroundings) (files : List (String × FileRead)) : Surroundings :=
  let read (path : String) := (files.lookup path).getD (.missing "no such file")
  { s with read, openStore := fun path => storeIn (read path) }

end Lemmata.Cli.Surroundings
