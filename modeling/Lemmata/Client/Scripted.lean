import Lemmata.Client.Basic

/-!
# The scripted client

Gives the fetches of a call the replies of a script, one after the other, for runs without any
backend. The last reply of a call is repeated.
-/

namespace Lemmata

inductive ScriptedReply where
  /-- There is no response at all. -/
  | failing (text : String)
  /-- Without an ID of its own the response is named for the call and the count. -/
  | response (id : Option String) (raw : RawResponse)
deriving DecidableEq

/-- Replies by call; those of a star are for every call without replies of its own. -/
structure Script where
  replies : List (String × List ScriptedReply)
  isSuccess : RawResponse → Bool

namespace Script

def repliesFor (s : Script) (callId : String) : List ScriptedReply :=
  (s.replies.lookup callId <|> s.replies.lookup "*").getD []

/-- The reply to the fetch of a call that comes after so many others of that call. -/
def reply? (s : Script) (callId : String) (before : Nat) : Option ScriptedReply :=
  (s.repliesFor callId)[before]? <|> (s.repliesFor callId).getLast?

def respond (s : Script) (before : Nat) (callId endpoint : String) :
    Except Failure RawResponse :=
  match s.reply? callId before with
  | none => .error (.transport s!"nothing scripted for {callId}")
  | some (.failing text) => .error (.transport text)
  | some (.response id raw) =>
    .ok { raw with id := id.getD s!"raw-{callId}-{before + 1}", callId, endpoint }

/-- The client; `before` says how many fetches of a call there were. -/
def client (s : Script) (before : String → Nat) : Client where
  name := "scripted"
  execute := fun callId endpoint _ => s.respond (before callId) callId endpoint
  isSuccess := s.isSuccess

end Script

end Lemmata
