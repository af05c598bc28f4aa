import Lemmata.Client.File

/-!
# The fixture client

Gives every fetch the same answer, for runs without any backend.
-/

namespace Lemmata

structure Fixture where
  status : Int32 := 200
  contentType : String := "text/plain"
  body : List UInt8
deriving DecidableEq

namespace Fixture

def ofFile (path : String) (bytes : List UInt8) : Fixture where
  contentType := FileClient.contentType path
  body := bytes

def respond (f : Fixture) (id callId endpoint : String) : RawResponse :=
  { RawResponse.blank id callId endpoint with
    status := f.status
    contentType := f.contentType
    body := f.body }

/-- The client; the IDs of its responses are given by call. -/
def client (f : Fixture) (freshId : String → String) : Client where
  name := "fixture"
  execute := fun callId endpoint _ => .ok (f.respond (freshId callId) callId endpoint)
  isSuccess := Client.isHttpSuccess

end Fixture

end Lemmata
