import Playbook.Model.Http
import Playbook.Model.Service
import Playbook.Text.Base64
import Playbook.Web.Url
/-!
# Models behind a local server

A server that lists its models and answers chats over plain HTTP. Its answers are taken as they come: a body of
another shape than expected fails where the missing part is asked for.
-/

namespace Playbook

structure LocalServer where
  /-- The address as it was given, without slashes at its end. -/
  address : String
  /-- What the addresses of requests go on from. -/
  base : Web.Url
  key : String
  isOpen : Bool
  library : Http.Library

structure HttpRequest where
  method : String
  url : String
  authorization : String
  body : Option Json

namespace LocalServer

def name : String := "local"

def defaultUrl : String := "http://localhost:8000/v1"

def defaultKey : String := "not-needed"

/-! ### Setting up -/

def badUrl (f : Web.UrlFault) : Failure := .host .url f.message

def bearer (key : String) : String := "Bearer " ++ key

/-- Headers are written in ASCII; the first run of other characters is at fault. -/
def checkHeader (text : String) : Except Failure Unit :=
  let plain := text.toList.takeWhile (·.toNat < 0x80)
  match (text.toList.drop plain.length).takeWhile (0x80 ≤ ·.toNat) with
  | [] => .ok ()
  | [c] =>
    let shown := String.ofList (Text.escapePoint c)
    .error (.host .encoding s!"'ascii' codec can't encode character '{shown}' in position {plain.length}: ordinal not in range(128)")
  | run =>
    let last := plain.length + run.length - 1
    .error (.host .encoding s!"'ascii' codec can't encode characters in position {plain.length}-{last}: ordinal not in range(128)")

/-- Slashes at the end of the address do not count. -/
def new (library : Http.Library) (url key : String) : Except Failure LocalServer := do
  let address := (url.toList.reverse.dropWhile (· = '/')).reverse
  let base ← ((Web.Url.parse address).bind (·.asBase)).mapError badUrl
  checkHeader (bearer key)
  return ⟨String.ofList address, base, key, true, library⟩

def close (s : LocalServer) : LocalServer := { s with isOpen := false }

/-- A name or a password in the address goes before the key. -/
def authorization (s : LocalServer) : String :=
  match s.base.credentials? with
  | some (user, password) =>
    "Basic " ++ String.ofList (Text.Base64.encode (Text.encodeUtf8 (user ++ ':' :: password)))
  | none => bearer s.key

/-- A request for something below the base. A server that is closed takes none. -/
def request (s : LocalServer) (method path : String) (body : Option Json) : Except Failure HttpRequest := do
  let url ← (s.base.append path.toList).mapError badUrl
  if let some e := body.bind s.library.unsendable? then throw e.failure
  if !s.isOpen then throw (.host .runtime "Cannot send a request, as the client has been closed.")
  return ⟨method, url.text, s.authorization, body⟩

/-- An answer can be taken only from an address of some type: what stands in front of the first colon, and in front
of all slashes. -/
def checkAnswered (url : String) : Except Failure Unit :=
  let cs := url.toList
  let type := cs.takeWhile fun c => c ≠ ':' && c ≠ '/'
  if !type.isEmpty ∧ cs[type.length]? = some ':' then .ok ()
  else
    let shown := Text.quoted (String.ofList (if cs.getLast? = some '#' then cs.dropLast else cs))
    .error (.host .value s!"unknown url type: {shown}")

/-! ### Taking a body apart -/

/-- What a value of the wrong shape is asked for in vain. -/
def noField (v : Json) (name : String) : Failure := .host .attribute s!"'{v.kind}' object has no attribute '{name}'"

/-- The field of an object, or the given value where it has none. -/
def get (v : Json) (name : WideString) (absent : Json) : Except Failure Json :=
  match v with
  | .obj fields => .ok ((fields.lookup name).getD absent)
  | v => .error (noField v "get")

/-- What one gets by going through a value. -/
def iterate : Json → Except Failure (List Json)
  | .arr items => .ok items
  | .obj fields => .ok (fields.map fun (name, _) => .str name)
  | .str s => .ok (s.map fun p => .str [p])
  | v => .error (.host .type s!"'{v.kind}' object is not iterable")

def first : Json → Except Failure Json
  | .arr (v :: _) => .ok v
  | .arr [] => .error (.host .index "list index out of range")
  | .obj _ => .error (.host .key "0")
  | .str s => .ok (.str (s.take 1))
  | v => .error (.host .type s!"'{v.kind}' object is not subscriptable")

def readBody (s : LocalServer) (body : Text.Bytes) : Except Failure Json :=
  (s.library.read body).mapError Http.Foreign.failure

/-- The body of a successful answer; `fault` is what any other one comes to. -/
def successful (s : LocalServer) (fault : WideString → ModelFault) (url : String) :
    Http.Outcome → Except Failure Text.Bytes
  | .unreachable text => .error (.model (fault text))
  | .response status body => do
    checkAnswered url
    if Http.isSuccess status then return body else throw (.model (fault (s.library.statusText status url)))

/-! ### Calls -/

structure Exchange (α : Type) where
  requests : List HttpRequest
  pauses : List Nat
  result : Except Failure α

def list (s : LocalServer) (outcome : Http.Outcome) : Exchange (List Json) :=
  match s.request "GET" "models" none with
  | .error e => ⟨[], [], .error e⟩
  | .ok request =>
    let result := do
      let body ← s.successful .listFailed request.url outcome
      let entries ← iterate (← get (← s.readBody body) "data" (.arr []))
      entries.mapM fun entry => get entry "id" (.str "")
    ⟨[request], [], result⟩

def select (s : LocalServer) (choice : ModelChoice) (model : WideString) (outcome : Http.Outcome) :
    Exchange ModelChoice :=
  let listed := s.list outcome
  let isModel : Json → Bool
    | .str id => id = model
    | _ => false
  let result := match listed.result with
    | .error (.model fault) => .error (.selection (.failed model fault.message))
    | .error e => .error e
    | .ok ids => if ids.any isModel then .ok (choice.select model) else .error (.selection (.unserved model s.address))
  ⟨listed.requests, [], result⟩

def readReply (model : WideString) (data : Json) : Except Failure Reply := do
  let choices ← get data "choices" .null
  if !choices.isTruthy then throw (.model .noChoices)
  let usage ← get data "usage" .null
  let usage := if usage.isTruthy then usage else .obj []
  let message ← get (← first choices) "message" (.obj [])
  let content ← get message "content" .null
  let answered ← get data "model" (.str model)
  return ⟨if content.isTruthy then content else .str "", answered,
    Service.usageOf (← get usage "prompt_tokens" (.int 0)) (← get usage "completion_tokens" (.int 0))
      (← get usage "total_tokens" (.int 0))⟩

def requestBody (model : WideString) (messages : List Message) (options : RequestOptions) : Json :=
  .object [[("model", .str model), ("messages", .arr (messages.map Service.messageJson)),
      ("max_tokens", .int options.maxTokens)],
    Json.present "temperature" id options.temperature]

def send (s : LocalServer) (loop : Retry.Loop Http.Outcome) (choice : ModelChoice) (limit : Nat) (r : Request)
    (outcome : Http.Outcome) (script : List Http.Outcome) : Exchange Reply :=
  let prepared := do
    let role ← Request.checkRole r.role
    let model ← choice.resolve name r.options
    let body := requestBody model (Request.transcript r.history role r.content) r.options
    return (model, ← s.request "POST" "chat/completions" (some body))
  match prepared with
  | .error e => ⟨[], [], .error e⟩
  | .ok (model, request) =>
    let course := loop.run Http.Outcome.isTransient limit outcome script
    let result := do readReply model (← s.readBody (← s.successful .requestFailed request.url course.outcome))
    ⟨List.replicate course.calls request, course.pauses, result⟩

end LocalServer

end Playbook
