import Playbook.Model.Request
import Playbook.Model.Retry
/-!
# Hosted models

Two services that differ in how they name a field and how they shape a reply. A model is selected by asking the
service for it; a request is tried again while it fails in passing.
-/

namespace Playbook

inductive Service where
  | anthropic
  | openai
deriving Repr, DecidableEq

/-- How a call to a service fails. Only foreign faults are none of the service's own. -/
inductive ServiceFault where
  | connection
  | timeout
  | rateLimit
  | server
  | notFound
  | rejected
  | foreign
deriving Repr, DecidableEq

namespace ServiceFault

def isTransient : ServiceFault → Bool
  | connection | timeout | rateLimit | server => true
  | _ => false

end ServiceFault

inductive ServiceOutcome where
  | fault (kind : ServiceFault) (text : WideString)
  | response (body : Json)

/-- One call on the way to a service. -/
inductive ServiceCall where
  | retrieve (model : WideString)
  | create (fields : Json.Fields)

namespace Service

def name : Service → String
  | anthropic => "anthropic"
  | openai => "openai"

def defaultModel : Service → String
  | anthropic => "claude-3-5-sonnet-20241022"
  | openai => "gpt-4.1"

def tokensField : Service → String
  | anthropic => "max_tokens"
  | openai => "max_completion_tokens"

end Service

def ServiceOutcome.isTransient : ServiceOutcome → Bool
  | fault kind _ => kind.isTransient
  | response _ => false

/-! ### Replies -/

namespace Service

def messageJson (m : Message) : Json := .obj [("role", .str m.role.text), ("content", .str m.content)]

def requestFields (s : Service) (model : WideString) (messages : List Message) (options : RequestOptions) : Json.Fields :=
  let fields : Json.Fields :=
    [("model", .str model), ("messages", .arr (messages.map messageJson)), (s.tokensField, .int options.maxTokens)]
  fields ++ Json.present "temperature" id options.temperature

def usageOf (prompt completion total : Json) : Json.Fields :=
  [("prompt_tokens", prompt), ("completion_tokens", completion), ("total_tokens", total)]

/-- The texts of a reply one after another, or the text of its first choice. -/
def readReply (s : Service) (body : Json) : Except Failure Reply :=
  let model := body.field "model"
  match s with
  | anthropic =>
    let texts := (body.field "content").items.filter fun part => (part.field "type").text = ("text" : WideString)
    let input := ((body.field "usage").field "input_tokens").number
    let output := ((body.field "usage").field "output_tokens").number
    .ok ⟨.str (texts.flatMap fun part => (part.field "text").text), model,
      usageOf (.int input) (.int output) (.int (input + output))⟩
  | openai =>
    match (body.field "choices").items with
    | [] => .error (.model .noChoices)
    | choice :: _ =>
      let usage := body.field "usage"
      let counts :=
        if usage.isTruthy then
          usageOf (usage.field "prompt_tokens") (usage.field "completion_tokens") (usage.field "total_tokens")
        else []
      .ok ⟨.str (choice.field "content").text, model, counts⟩

/-! ### Selecting and sending

The scripts hold what the service answers, the last answer repeating. -/

/-- The calls made, the pauses between them, and the result. -/
structure Exchange (α : Type) where
  calls : List ServiceCall
  pauses : List Nat
  result : Except Failure α

def select (_ : Service) (choice : ModelChoice) (model : WideString) (outcome : ServiceOutcome) : Exchange ModelChoice :=
  let result := match outcome with
    | .response _ => .ok (choice.select model)
    | .fault .foreign text => .error (.host .runtime text)
    | .fault .notFound text => .error (.selection (.unavailable model text))
    | .fault _ text => .error (.selection (.failed model text))
  ⟨[.retrieve model], [], result⟩

def send (s : Service) (loop : Retry.Loop ServiceOutcome) (choice : ModelChoice) (limit : Nat) (r : Request)
    (outcome : ServiceOutcome) (script : List ServiceOutcome) : Exchange Reply :=
  match Request.checkRole r.role, choice.resolve s.name r.options with
  | .error e, _ => ⟨[], [], .error e⟩
  | .ok _, .error e => ⟨[], [], .error e⟩
  | .ok role, .ok model =>
    let call := ServiceCall.create (s.requestFields model (Request.transcript r.history role r.content) r.options)
    let course := loop.run ServiceOutcome.isTransient limit outcome script
    let result := match course.outcome with
      | .response body => s.readReply body
      | .fault .foreign text => .error (.host .runtime text)
      | .fault _ text => .error (.model (.requestFailed text))
    ⟨List.replicate course.calls call, course.pauses, result⟩

end Service

end Playbook
