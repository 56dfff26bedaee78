import StackConnect.Error
import StackConnect.Interaction.Precondition
import StackConnect.Serde.Json

set_option autoImplicit false

namespace StackConnect

open Interaction Serde Rust

inductive Method where
  | get
  | post
  | patch
  | delete
  | other (name : String)
deriving DecidableEq

inductive Body where
  | empty
  | json (value : Json)
  | bytes (data : List UInt8)

-- `bearer` is the token of `.bearer_auth(token)`, none when it was never called.
structure Request where
  method : Method
  url : String
  bearer : Option String
  headers : List (String × String)
  body : Body

def Request.plain (method : Method) (url : String) : Request := ⟨method, url, none, [], .empty⟩
def Request.get (url : String) : Request := .plain .get url
def Request.delete (url : String) : Request := .plain .delete url
def Request.withJson (request : Request) (value : Json) : Request := { request with body := .json value }
def Request.post (url : String) (value : Json) : Request := (Request.plain .post url).withJson value
def Request.patch (url : String) (value : Json) : Request := (Request.plain .patch url).withJson value
def Request.bearerAuth (request : Request) (token : String) : Request := { request with bearer := some token }

-- A response read chunk by chunk: `broken` is a transport failure after the chunks.
structure Streamed where
  status : Nat
  contentLength : Option Nat
  chunks : List (List UInt8)
  broken : Option String

-- What the client asks of the world: a signed token, a request read to its end
-- as text, and a request whose body is streamed.
inductive Query where
  | bearerToken
  | send (request : Request)
  | stream (request : Request)

abbrev Answer : Query → Type
  | .bearerToken => Except String String
  | .send _ => Except String (Nat × String)
  | .stream _ => Except String Streamed

abbrev Async (α : Type) := Prog Query Answer StackError α
abbrev Trace := List (Event Answer)

-- Code outside this repository that the client calls: `method` is
-- `Method::from_bytes`, `bodyText` what `Response::text` makes of the bytes of a body.
structure Crates where
  serdeJson : SerdeJson
  md5 : List UInt8 → List UInt8
  gunzip : List UInt8 → Except String String
  method : String → Except String Method
  bodyText : List UInt8 → String

-- Any non-empty token is a method.
def isTokenChar (char : Char) : Bool := char.isAlphanum || "!#$%&'*+-.^_|~".toList.contains char || char.toNat == 0x60

def Method.fromBytes (name : String) : Except String Method :=
  if name = "GET" then .ok .get
  else if name = "POST" then .ok .post
  else if name = "PATCH" then .ok .patch
  else if name = "DELETE" then .ok .delete
  else if name ≠ "" ∧ name.toList.all isTokenChar then .ok (.other name)
  else .error "invalid HTTP method"

def Crates.reading (values : List Json) : Crates where
  serdeJson := .reading values
  md5 _ := []
  gunzip _ := .error "not gzip"
  method := Method.fromBytes
  bodyText := fromUtf8Lossy

def replying (replies : List ((Method × String) × (Nat × String))) : Handler Answer Unit where
  answer
    | .bearerToken, state => (.ok "token", state)
    | .send request, state => (.ok ((replies.lookup (request.method, request.url)).getD (404, "")), state)
    | .stream _, state => (.error "not streamed", state)

structure AppStoreClient where
  baseUrl : String
  crates : Crates

def defaultBaseUrl : String := "https://api.appstoreconnect.apple.com"

namespace AppStoreClient

def withBaseUrl (baseUrl : String) (crates : Crates) : AppStoreClient := ⟨trimEndMatches '/' baseUrl, crates⟩

end AppStoreClient

-- AppStoreAuthenticator::bearer_token, as its caller sees it. Every failure of
-- signing is an authentication error.
def bearerToken : Async String :=
  .ask .bearerToken fun
    | .ok token => .done (.ok token)
    | .error message => .done (.error (.auth message))

def sendAndRead (request : Request) : Async (Nat × String) :=
  .ask (.send request) fun
    | .ok response => .done (.ok response)
    | .error message => .done (.error (.network message))

def isSuccess (status : Nat) : Bool := decide (200 ≤ status ∧ status < 300)

-- `let token = self.auth.bearer_token().await?` followed by sending the request with it.
def authorized (request : Request) : Async (Nat × String) := do
  let token ← bearerToken
  sendAndRead (request.bearerAuth token)

def accepted (response : Nat × String) : Except StackError String :=
  if isSuccess response.1 then .ok response.2 else .error (statusError response.1 response.2)

def exchange (request : Request) : Async String := do
  let response ← authorized request
  .ofExcept (accepted response)

def getPage (url : String) : Async String := exchange (.get url)

def postJson2xx (url : String) (requestBody : Json) : Async String := exchange (.post url requestBody)

def patchNoContent (url token : String) (requestBody : Json) : Async Unit := do
  let response ← sendAndRead ((Request.patch url requestBody).bearerAuth token)
  let _ ← Prog.ofExcept (accepted response)
  pure ()

def exchangeNoContent (request : Request) : Async Unit := do
  let _ ← exchange request
  pure ()

def deleteNoContent (url : String) : Async Unit := do
  let _ ← exchange (.delete url)
  pure ()

namespace AppStoreClient

variable (client : AppStoreClient) {α : Type}

-- `serde_json::from_str(&body).map_err(|e| StackError::decode(format!("{label}: {e}")))`.
def parse (type label : String) (decoder : Decoder α) (body : String) : Except StackError α :=
  match client.crates.serdeJson.fromStr type decoder body with
  | .ok value => .ok value
  | .error reason => .error (.decode (label ++ ": " ++ reason))

end AppStoreClient

def identifier (type id : String) : Json := .obj [("type", .str type), ("id", .str id)]

def linkTo (type id : String) : Json := .obj [("data", identifier type id)]

end StackConnect
