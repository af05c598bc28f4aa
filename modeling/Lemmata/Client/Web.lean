import Lemmata.Client.File

/-!
# The web client

Answers fetches with what a server sent. A request without a complete response has the status 0,
and its response says why.
-/

namespace Lemmata

/-- What came of a request. -/
inductive Exchange where
  | failed (text : String)
  | answered (status : Int32) (headers : Dict) (body : List UInt8)
deriving DecidableEq

namespace Exchange

def respond (id callId endpoint : String) : Exchange → RawResponse
  | failed text =>
    FileClient.withError (RawResponse.blank id callId endpoint) 0 text
  | answered status headers body =>
    { RawResponse.blank id callId endpoint with
      status, headers, body
      contentType := (headers.get? "content-type").getD "" }

/-- The client that makes requests by `exchange`; the IDs of its responses are given by call. -/
def client (exchange : String → Dict → Exchange) (freshId : String → String) : Client where
  name := "http"
  execute := fun callId endpoint params =>
    .ok ((exchange endpoint params).respond (freshId callId) callId endpoint)
  isSuccess := Client.isHttpSuccess

end Exchange

end Lemmata
