import Playbook.Proofs.Conversation.Prompts
import Playbook.Proofs.Skill.Frame
/-!
# What the task skill asks the model

Which request a piece of work makes is told apart from the answer by giving it every client there may be. The task skill
makes one request or none. A prompt that is missing or blank is turned down before any placeholder in it is looked at; what
the placeholders leave of it is sent as it is. So a blank text is sent just if the prompt has nothing but placeholders
that stand for nothing.
-/

namespace Playbook

open Text

/-- The session with another client, or with none. -/
def Api.withClient (api : Api) (client : Option Client) : Api := { api with client := client }

namespace Work

variable {α β : Type} {api : Api} {r : Request}

/-- With every client the work makes this request and no other one, and what comes of it is settled by the reply. -/
def Asks (x : Work α) (api : Api) (r : Request) : Prop :=
  ∃ told : Reply → Except Failure α × Variables, ∀ client : Option Client,
    x.run (api.withClient client) = match client with
      | none => (.error (.skill .noModelClient), api.withClient none)
      | some c => match c.send r with
        | (_, .error e) => (.error e, api.withClient (some c))
        | (c', .ok reply) => ((told reply).1, { api.withClient (some c') with bindings := (told reply).2 })

/-- With every client the work does the same, and leaves the client as it was. -/
def AsksNothing (x : Work α) (api : Api) : Prop :=
  ∃ result after, ∀ client : Option Client, x.run (api.withClient client) = (result, Api.withClient after client)

theorem run_setVariable (name : WideString) (value : Json) (api : Api) :
    (setVariable name value).run api = match api.bindings.setValue name value with
      | .ok bindings => (.ok (), { api with bindings := bindings })
      | .error e => (.error e, api) := by
  unfold setVariable
  rw [run_get_bind]
  cases api.bindings.setValue name value <;> rfl

/-! ### Work that asks -/

/-- What the reply is used for is left to the work behind the request. -/
theorem asks_send_bind {role content : WideString} {model : Option WideString} {options : RequestOptions}
    {f : Reply → Work α}
    (told : Reply → Except Failure α × Variables)
    (hf : ∀ reply client, (f reply).run (api.withClient client) =
      ((told reply).1, { api.withClient client with bindings := (told reply).2 })) :
    (send role content model options >>= f).Asks api (api.request role content model options) := by
  refine ⟨told, fun client => ?_⟩
  have hrun := run_send role content model options (api.withClient client)
  cases client with
  | none => exact run_bind_of_error hrun f
  | some c =>
      dsimp only [Api.withClient] at hrun ⊢
      have hrequest : Api.request { api with client := some c } role content model options =
        api.request role content model options := rfl
      rw [hrequest] at hrun
      rcases hsend : c.send (api.request role content model options) with ⟨c', e | reply⟩
      · rw [hsend] at hrun
        exact run_bind_of_error hrun f
      · rw [hsend] at hrun
        exact (run_bind_of_ok hrun f).trans (hf reply (some c'))

end Work

namespace Builtin

open Work

variable {args : Arguments} {prompt : WideString} {api : Api}

/-- The end of a skill that puts something into a variable if it is wanted there. -/
theorem run_variable (args : Arguments) (value : Json) (product : Product) (api : Api) :
    (do if let some name := filled? (args.lookup "variable") then Work.setVariable name.strip value
        return product : Work Product).run api = match variableName args with
      | none => (.ok product, api)
      | some name => match api.bindings.setValue name value with
        | .ok bindings => (.ok product, { api with bindings := bindings })
        | .error e => (.error e, api) := by
  unfold variableName
  cases filled? (args.lookup "variable") with
  | none => rfl
  | some name =>
      have hrun := run_setVariable name.strip value api
      dsimp only [Option.map_some]
      cases hset : api.bindings.setValue name.strip value with
      | ok bindings =>
          rw [hset] at hrun
          exact run_bind_of_ok hrun _
      | error e =>
          rw [hset] at hrun
          exact run_bind_of_error hrun _

theorem task_of_unfilled (h : filled? (args.lookup "prompt") = none) (api : Api) :
    (Task.work args).run api = (.error (.parameter (.blank "prompt")), api) := by
  rw [Task.work, requireText, h]
  rfl

theorem task_of_filled (h : filled? (args.lookup "prompt") = some prompt) (api : Api) :
    (Task.work args).run api =
      (if (args.lookup "debug").isSome then Task.debug (api.bindings.substitute prompt false) args
        else Task.send (api.bindings.substitute prompt false) args).run api := by
  rw [Task.work, requireText, h, run_bind_of_ok (run_ofExcept _ _)]
  exact run_bind_of_ok (run_get_bind _ api) _

theorem debug_asksNothing (prompt : WideString) (args : Arguments) (api : Api) : (Task.debug prompt args).AsksNothing api :=
  ⟨((Task.debug prompt args).run api).1, api, fun _ => rfl⟩

/-- What a task brings and which variables it leaves, by the reply. -/
def settled (prompt : WideString) (args : Arguments) (vs : Variables) (reply : Reply) :
    Except Failure Product × Variables :=
  let product : Product := .messages [.user prompt, .assistant reply.text.display]
  match variableName args with
  | none => (.ok product, vs)
  | some name => match vs.setValue name reply.text with
    | .ok vs => (.ok product, vs)
    | .error e => (.error e, vs)

theorem send_asks (prompt : WideString) (args : Arguments) (api : Api) :
    (Task.send prompt args).Asks api (api.request "user" prompt ((Task.model args).map Json.display) .standard) := by
  refine asks_send_bind (settled prompt args api.bindings) fun reply client => ?_
  refine (run_variable args reply.text _ _).trans ?_
  unfold settled
  cases variableName args with
  | none => rfl
  | some name =>
      dsimp only [Api.withClient]
      cases api.bindings.setValue name reply.text <;> rfl

theorem task_asks (h : filled? (args.lookup "prompt") = some prompt) (hdebug : (args.lookup "debug").isSome = false)
    (api : Api) :
    (Task.work args).Asks api (api.request "user" (api.bindings.substitute prompt false)
      ((Task.model args).map Json.display) .standard) := by
  obtain ⟨told, htold⟩ := send_asks (api.bindings.substitute prompt false) args api
  refine ⟨told, fun client => ?_⟩
  rw [task_of_filled h, hdebug]
  exact htold client

/-- **Blank prompts.** A prompt that is missing or blank is turned down and the model is not asked. Any other one is sent
as its placeholders leave it, once and whatever client there is, unless it is only to be written down; and what is sent is
blank just if the text around the placeholders is and every value that they name. -/
theorem task_asks_once (args : Arguments) (api : Api) :
    (filled? (args.lookup "prompt") = none →
      (Task.work args).AsksNothing api ∧ (Task.work args).run api = (.error (.parameter (.blank "prompt")), api)) ∧
    ∀ prompt, filled? (args.lookup "prompt") = some prompt →
      ((args.lookup "debug").isSome = true → (Task.work args).AsksNothing api) ∧
      ((args.lookup "debug").isSome = false →
        (Task.work args).Asks api (api.request "user" (api.bindings.substitute prompt false)
          ((Task.model args).map Json.display) .standard)) ∧
      ∃ t : Template, (t.text = prompt ∧ t.IsLeftmost) ∧
        ((api.bindings.substitute prompt false).isBlank = true ↔ (t.fill fun _ => []).isBlank = true ∧
          ∀ front s value, t.Has s front → api.bindings.get? s.name = some value → value.isBlank = true) := by
  refine ⟨fun h => ⟨⟨_, api, fun client => task_of_unfilled h (api.withClient client)⟩, task_of_unfilled h api⟩, ?_⟩
  intro prompt h
  obtain ⟨t, ht, hleftmost⟩ := Template.exists_isLeftmost prompt
  refine ⟨fun hdebug => ?_, fun hdebug => task_asks h hdebug api, t, ⟨ht, hleftmost⟩,
    api.bindings.blank_substitute_iff ht hleftmost⟩
  obtain ⟨result, after, hdebugs⟩ := debug_asksNothing (api.bindings.substitute prompt false) args api
  refine ⟨result, after, fun client => ?_⟩
  rw [task_of_filled h, hdebug]
  exact hdebugs client

/-- A prompt that is nothing but a placeholder for an unknown name is sent as the empty text. -/
theorem not_visible_of_unknown : ¬ ∀ (args : Arguments) (api : Api) (r : Request),
    (Task.work args).Asks api r → r.content.isBlank = false := by
  intro hall
  let args : Arguments := [("prompt", .str "\x7b\x7bmissing\x7d\x7d")]
  let api : Api := ⟨⟨[("home", [])], "home", "home"⟩, [], none, .bare ⟨[]⟩, [], [], 0, ⟨"/", []⟩⟩
  have hfilled : filled? (args.lookup "prompt") = some ("\x7b\x7bmissing\x7d\x7d" : WideString) := by decide +kernel
  have hvisible := hall args api _ (task_asks hfilled rfl api)
  revert hvisible
  decide +kernel

end Builtin

end Playbook
