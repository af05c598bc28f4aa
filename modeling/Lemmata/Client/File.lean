import Lemmata.Client.Basic
import Lemmata.Files.Path
import Lemmata.Files.Read

/-!
# The file client

Answers fetches from files on disk. The endpoint is a directory or a file, and a parameter may name
a file below it. Failures of the disk are answered with statuses like those of a server.
-/

namespace Lemmata.FileClient

/-- The header that says why there was no answer. -/
def transportError : String := "x-transport-error"

/-! ## The path of a fetch -/

def scheme : List Char := "file://".toList

def withoutScheme (endpoint : String) : String :=
  let cs := endpoint.toList
  if scheme.isPrefixOf cs then String.ofList (cs.drop scheme.length) else endpoint

/-- Whether a path stays below the directory that it is joined to. -/
def staysBelow (file : String) : Bool :=
  (Path.components file).all Path.isNormal

/-- The path below the endpoint, if the file parameter does not lead out of it. -/
def pathBelow? (endpoint : String) (params : Dict) : Option String :=
  let path := withoutScheme endpoint
  match params.get? "file" with
  | none => some path
  | some file => if staysBelow file then some (Path.join path file) else none

/-- The path to read. A relative one starts at the base directory. -/
def resolve? (base : Option String) (endpoint : String) (params : Dict) : Option String :=
  (pathBelow? endpoint params).map fun path =>
    match base with
    | some base => if Path.isAbsolute path then path else Path.join base path
    | none => path

/-! ## Content types -/

def contentType (path : String) : String :=
  match (Path.extension? path).map fun e => e.map Char.toLower with
  | some "json" => "application/json"
  | some "xml" => "application/xml"
  | some "html" | some "htm" => "text/html"
  | _ => "text/plain"

/-! ## The response -/

def withError (raw : RawResponse) (status : Int32) (text : String) : RawResponse :=
  { raw with status, headers := raw.headers.insert transportError text }

def ofRead (raw : RawResponse) : FileRead → RawResponse
  | .content bytes => { raw with status := 200, body := bytes }
  | .missing text => withError raw 404 text
  | .forbidden text => withError raw 403 text
  | .unreadable text => withError raw 500 text

/-- The response of a fetch, under the given ID. -/
def respond (base : Option String) (read : String → FileRead) (id callId endpoint : String)
    (params : Dict) : RawResponse :=
  let raw := RawResponse.blank id callId endpoint
  match resolve? base endpoint params with
  | none => withError raw 400 "file parameter escapes the endpoint directory"
  | some path =>
    ofRead
      { raw with contentType := contentType path, headers := raw.headers.insert "x-path" path }
      (read path)

/-- The client; the IDs of its responses are given by call. -/
def client (base : Option String) (read : String → FileRead) (freshId : String → String) :
    Client where
  name := "file"
  execute := fun callId endpoint params =>
    .ok (respond base read (freshId callId) callId endpoint params)
  isSuccess := Client.isHttpSuccess

end Lemmata.FileClient
