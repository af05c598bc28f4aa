import Lemmata.Client.File
import Lemmata.Decimal.Count
import Lemmata.Text.Blank

/-!
# The subprocess client

Answers fetches by running a local program. The exit code is the status and the output is the body;
a program that could not be run to its end has the status -1.
-/

namespace Lemmata.Subprocess

/-! ## Arguments -/

/-- The position of a parameter whose name is `arg` and a count. -/
def positional? (name : String) : Option Nat :=
  match name.toList with
  | 'a' :: 'r' :: 'g' :: count => Decimal.count? count
  | _ => none

def positionLe (a b : Nat × String) : Bool :=
  decide (a.1 ≤ b.1)

/-- The positional parameters in the order of their positions, then all others as options. -/
def arguments (params : Dict) : List String :=
  let positional := params.entries.filterMap fun (name, value) =>
    (positional? name).map fun position => (position, value)
  let options := params.entries.filter fun (name, _) => (positional? name).isNone
  (positional.mergeSort positionLe).map Prod.snd
    ++ options.flatMap fun (name, value) => ["--" ++ name, value]

/-! ## Outcomes -/

/-- What became of a program. -/
inductive Ending where
  | notStarted (text : String)
  | notAwaited (text : String)
  | timedOut
  /-- There is no exit code if a signal ended the program. -/
  | ended (code : Option Int32) (output errors : List UInt8)
deriving DecidableEq

/-- The longest excerpt of the error output that is kept. -/
def errorExcerpt : Nat := 2048

def withErrors (raw : RawResponse) (errors : List UInt8) : RawResponse :=
  let text := Blank.trimChars (Utf8.decode errors).toList
  if text.isEmpty then raw
  else
    { raw with
      headers := raw.headers.insert "x-stderr" (String.ofList (text.take errorExcerpt)) }

def ofEnding (raw : RawResponse) : Ending → RawResponse
  | .notStarted text => FileClient.withError raw (-1) s!"spawn failed: {text}"
  | .notAwaited text => FileClient.withError raw (-1) s!"wait failed: {text}"
  | .timedOut => FileClient.withError raw (-1) "timed out"
  | .ended code output errors =>
    withErrors { raw with status := code.getD (-1), body := output } errors

/-- The response of a fetch, under the given ID; `run` runs a program with arguments. -/
def respond (run : String → List String → Ending) (id callId endpoint : String) (params : Dict) :
    RawResponse :=
  ofEnding { RawResponse.blank id callId endpoint with contentType := "text/plain" }
    (run endpoint (arguments params))

/-- The client; the IDs of its responses are given by call. -/
def client (run : String → List String → Ending) (freshId : String → String) : Client where
  name := "subprocess"
  execute := fun callId endpoint params =>
    .ok (respond run (freshId callId) callId endpoint params)
  isSuccess := Client.isCleanExit

end Lemmata.Subprocess
