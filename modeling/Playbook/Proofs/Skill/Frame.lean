import Playbook.Proofs.Skill.Course
/-!
# Built-in skills do their work or leave no trace

A step that fails is not taken back, so a skill must not write before it is through with everything that can fail. The
built-in skills look, ask and send first and write at most once, in the end: one selects a conversation, one a model, and
three set a single variable. What such a skill keeps of a session is what a piece of work keeps that does nothing but
look, followed by one write with nothing behind it that could still fail.
-/

namespace Playbook

/-! ### Variables -/

theorem Variables.setValue_eq_ok {vs vs' : Variables} {name : WideString} {value : Json}
    (h : vs.setValue name value = .ok vs') : ∃ text, vs' = vs.set name text := by
  cases value with
  | str text =>
      cases h
      exact ⟨text, rfl⟩
  | null | bool | int | float | arr | obj => cases h

/-! ### Frames -/

/-- What a step may change: the selection of a conversation or of a model, and one variable. -/
structure Scope where
  selectsContext : Bool
  selectsModel : Bool
  binding : Option WideString
deriving Repr, DecidableEq

namespace Api

/-- The model that is selected, and the one that is in use without a selection. -/
def choice (api : Api) : Option ModelChoice := api.client.map (·.choice)

/-- What a session keeps of the first is the same in the second. -/
structure Same (a b : Api) : Prop where
  contexts : b.contexts = a.contexts
  bindings : b.bindings = a.bindings
  choice : b.choice = a.choice
  pending : b.pending = a.pending

/-- Nothing is different but what is in the scope; conversations that are new have no messages. -/
structure Framed (scope : Scope) (a b : Api) : Prop where
  conversations : ∃ names : List WideString,
    b.contexts.conversations = a.contexts.conversations ++ names.map fun name => (name, [])
  contexts : scope.selectsContext = false → b.contexts = a.contexts
  choice : scope.selectsModel = false → b.choice = a.choice
  bindings : b.bindings = a.bindings ∨ ∃ name text, scope.binding = some name ∧ b.bindings = a.bindings.set name text
  others : ∀ name, scope.binding ≠ some name → b.bindings.get? name = a.bindings.get? name
  pending : b.pending = a.pending

/-- A step that fails changes nothing, and any other only what is in its scope. -/
def Kept {α : Type} (scope : Scope) (before after : Api) : Except Failure α → Prop
  | .error _ => before.Same after
  | .ok _ => before.Framed scope after

variable {scope : Scope} {a b c : Api}

theorem Same.refl (a : Api) : a.Same a := ⟨rfl, rfl, rfl, rfl⟩

theorem Same.trans (h : a.Same b) (h' : b.Same c) : a.Same c :=
  ⟨h'.contexts.trans h.contexts, h'.bindings.trans h.bindings, h'.choice.trans h.choice, h'.pending.trans h.pending⟩

theorem Same.framed (h : a.Same b) : a.Framed scope b where
  conversations := ⟨[], by rw [h.contexts, List.map_nil, List.append_nil]⟩
  contexts _ := h.contexts
  choice _ := h.choice
  bindings := .inl h.bindings
  others _ _ := by rw [h.bindings]
  pending := h.pending

theorem Same.trans_framed (h : a.Same b) (h' : b.Framed scope c) : a.Framed scope c where
  conversations := by
    rw [← h.contexts]
    exact h'.conversations
  contexts hscope := (h'.contexts hscope).trans h.contexts
  choice hscope := (h'.choice hscope).trans h.choice
  bindings := by
    rw [← h.bindings]
    exact h'.bindings
  others name hname := by
    rw [← h.bindings]
    exact h'.others name hname
  pending := h'.pending.trans h.pending

theorem Same.trans_kept {α : Type} {result : Except Failure α} (h : a.Same b) (h' : b.Kept scope c result) :
    a.Kept scope c result := by
  cases result with
  | error e => exact h.trans h'
  | ok r => exact h.trans_framed h'

theorem Kept.framed {α : Type} {result : Except Failure α} (h : a.Kept scope b result)
    (hdone : result.toBool = true) : a.Framed scope b := by
  cases result with
  | error e => cases hdone
  | ok r => exact h

theorem Kept.same {α : Type} {result : Except Failure α} (h : a.Kept scope b result)
    (hfailed : result.toBool = false) : a.Same b := by
  cases result with
  | error e => exact h
  | ok r => cases hfailed

end Api

/-! ### Pieces of work -/

namespace Work

variable {α β : Type} {scope : Scope}

/-- The work only looks, asks or sends, whether it fails or not. -/
def Still (x : Work α) : Prop := ∀ api : Api, api.Same (x.run api).2

/-- The work fails with everything as it was, or stays in its scope and brings something good. -/
def Atomic (scope : Scope) (good : α → Prop) (x : Work α) : Prop :=
  ∀ api : Api, api.Kept scope (x.run api).2 (x.run api).1 ∧ ∀ a, (x.run api).1 = .ok a → good a

/-! ### Work that only looks -/

theorem still_pure (a : α) : Still (pure a) := fun api => .refl api

theorem still_throw (f : Failure) : Still (throw f : Work α) := fun api => .refl api

theorem still_ofExcept (x : Except Failure α) : Still (ofExcept x) := by
  cases x with
  | error f => exact still_throw f
  | ok a => exact still_pure a

theorem run_ofExcept (x : Except Failure α) (api : Api) : (ofExcept x : Work α).run api = (x, api) := by
  cases x <;> rfl

theorem still_get : Still (get : Work Api) := fun api => .refl api

theorem Still.bind {x : Work α} {f : α → Work β} (hx : x.Still) (hf : ∀ a, (f a).Still) : (x >>= f).Still := by
  intro api
  have hsame := hx api
  rcases hrun : x.run api with ⟨e | a, api'⟩
  · rw [hrun] at hsame
    rw [run_bind_of_error hrun]
    exact hsame
  · rw [hrun] at hsame
    rw [run_bind_of_ok hrun]
    exact hsame.trans (hf a api')

theorem still_modifyHost (g : Host → Host) :
    Still (modify fun api => { api with host := g api.host } : Work Unit) := fun _ => ⟨rfl, rfl, rfl, rfl⟩

theorem still_substitute (text : WideString) (keepUnknown : Bool) : (substitute text keepUnknown).Still :=
  still_get.bind fun _ => still_pure _

theorem still_ask (prompt : WideString) : (ask prompt).Still := by
  apply still_get.bind
  intro api
  obtain ⟨host, answer⟩ := api.host.ask prompt
  apply (still_modifyHost fun _ => host).bind
  intro _
  cases answer with
  | error e => exact still_throw e
  | ok text => exact still_pure text

/-- A client that has answered has the choice that it had. -/
theorem still_send (role content : WideString) (model : Option WideString) (options : RequestOptions) :
    (send role content model options).Still := by
  intro api
  rw [run_send]
  cases hclient : api.client with
  | none => exact .refl api
  | some c =>
      have hchoice : (c.send (api.request role content model options)).1.choice = c.choice := by
        unfold Client.send
        cases c.answer (api.request role content model options) with
        | error e => rfl
        | ok reply => rfl
      dsimp only
      cases hsend : c.send (api.request role content model options) with
      | mk c' answer =>
          rw [hsend] at hchoice
          cases answer with
          | error e => exact .refl api
          | ok reply => exact ⟨rfl, rfl, by simpa [Api.choice, hclient] using hchoice, rfl⟩

/-! ### One write in the end -/

theorem atomic_pure {good : α → Prop} {a : α} (h : good a) : Atomic scope good (pure a) := by
  intro api
  refine ⟨(Api.Same.refl api).framed, ?_⟩
  rintro _ ⟨⟩
  exact h

/-- Looking first does no harm; what follows may rely on what was found. -/
theorem Still.bind_atomic_of {x : Work α} {f : α → Work β} {good : β → Prop} (hx : x.Still)
    (hf : ∀ api a, (x.run api).1 = .ok a → (f a).Atomic scope good) : (x >>= f).Atomic scope good := by
  intro api
  have hsame := hx api
  have hfound := hf api
  rcases hrun : x.run api with ⟨e | a, api'⟩
  · rw [hrun] at hsame
    rw [run_bind_of_error hrun]
    exact ⟨hsame, nofun⟩
  · rw [hrun] at hsame hfound
    rw [run_bind_of_ok hrun]
    obtain ⟨hkept, hgood⟩ := hfound a rfl api'
    exact ⟨hsame.trans_kept hkept, hgood⟩

theorem Still.bind_atomic {x : Work α} {f : α → Work β} {good : β → Prop} (hx : x.Still)
    (hf : ∀ a, (f a).Atomic scope good) : (x >>= f).Atomic scope good :=
  hx.bind_atomic_of fun _ a _ => hf a

/-- Behind a write nothing may fail. -/
theorem Atomic.bind_pure {x : Work α} {good : α → Prop} (hx : x.Atomic scope good) {f : α → β} {good' : β → Prop}
    (hf : ∀ a, good' (f a)) : (x >>= fun a => pure (f a)).Atomic scope good' := by
  intro api
  have hkept := (hx api).1
  rcases hrun : x.run api with ⟨e | a, api'⟩
  · rw [hrun] at hkept
    rw [run_bind_of_error hrun]
    exact ⟨hkept, nofun⟩
  · rw [hrun] at hkept
    rw [run_bind_of_ok hrun]
    refine ⟨hkept, ?_⟩
    rintro _ ⟨⟩
    exact hf a

theorem atomic_selectContext (name : WideString) : (selectContext name).Atomic ⟨true, false, none⟩ fun _ => True := by
  intro api
  refine ⟨?_, fun _ _ => trivial⟩
  rw [run_selectContext]
  cases hselect : api.contexts.select name with
  | error e => exact .refl api
  | ok contexts =>
      refine ⟨?_, nofun, fun _ => rfl, .inl rfl, fun _ _ => rfl, rfl⟩
      rcases Contexts.select_eq_ok hselect with ⟨-, rfl⟩ | ⟨-, rfl⟩
      · exact ⟨[], (List.append_nil _).symm⟩
      · exact ⟨[name.strip], rfl⟩

theorem atomic_selectModel (model : WideString) : (selectModel model).Atomic ⟨false, true, none⟩ fun _ => True := by
  intro api
  refine ⟨?_, fun _ _ => trivial⟩
  rw [run_selectModel]
  cases api.client with
  | none => exact .refl api
  | some c =>
      dsimp only
      cases c.select model with
      | error e => exact .refl api
      | ok c' => exact ⟨⟨[], (List.append_nil _).symm⟩, fun _ => rfl, nofun, .inl rfl, fun _ _ => rfl, rfl⟩

theorem atomic_setVariable (name : WideString) (value : Json) :
    (setVariable name value).Atomic ⟨false, false, some name⟩ fun _ => True := by
  intro api
  refine ⟨?_, fun _ _ => trivial⟩
  unfold setVariable
  rw [run_get_bind]
  cases hset : api.bindings.setValue name value with
  | error e => exact .refl api
  | ok bindings =>
      obtain ⟨text, rfl⟩ := Variables.setValue_eq_ok hset
      refine ⟨⟨[], (List.append_nil _).symm⟩, fun _ => rfl, fun _ => rfl, .inr ⟨name, text, rfl, rfl⟩, ?_, rfl⟩
      intro other hother
      have hne : other ≠ name := by
        rintro rfl
        exact hother rfl
      show (insertValue name text api.bindings).lookup other = api.bindings.lookup other
      rw [lookup_insertValue, if_neg hne]

end Work

/-! ### The built-in skills -/

def Product.isMessages : Product → Bool
  | .messages _ => true
  | .nothing | .other _ => false

namespace Builtin

open Work

/-- The variable that the arguments name. -/
def variableName (args : Arguments) : Option WideString := (filled? (args.lookup "variable")).map WideString.strip

/-- What the built-in skill of a name may change. -/
def scope (name : String) (args : Arguments) : Scope :=
  match name with
  | "context" => ⟨true, false, none⟩
  | "model" => ⟨false, true, none⟩
  | "task" => ⟨false, false, if (args.lookup "debug").isSome then none else variableName args⟩
  | "execute" | "input" => ⟨false, false, variableName args⟩
  | _ => ⟨false, false, none⟩

theorem selectContext_atomic (args : Arguments) :
    (selectContext args).Atomic (scope context.name args) (·.isMessages = true) :=
  (still_ofExcept _).bind_atomic fun name => (atomic_selectContext name).bind_pure fun _ => rfl

theorem selectModel_atomic (args : Arguments) :
    (selectModel args).Atomic (scope model.name args) (·.isMessages = true) :=
  (still_ofExcept _).bind_atomic fun _ => (atomic_selectModel _).bind_pure fun _ => rfl

/-- The last thing that a skill does is to put something into a variable if it is wanted there. -/
theorem atomic_variable (args : Arguments) (value : Json) (messages : List Message) :
    (do if let some name := filled? (args.lookup "variable") then Work.setVariable name.strip value
        return .messages messages : Work Product).Atomic ⟨false, false, variableName args⟩ (·.isMessages = true) := by
  unfold variableName
  cases filled? (args.lookup "variable") with
  | none => exact atomic_pure rfl
  | some name => exact (atomic_setVariable _ _).bind_pure fun _ => rfl

theorem task_atomic (args : Arguments) :
    (Task.work args).Atomic (scope Task.skill.name args) (·.isMessages = true) := by
  apply (still_ofExcept _).bind_atomic
  intro _
  apply (still_substitute _ _).bind_atomic
  intro prompt
  change Atomic ⟨false, false, if (args.lookup "debug").isSome then none else variableName args⟩ _ _
  by_cases hdebug : (args.lookup "debug").isSome = true
  · rw [if_pos hdebug, if_pos hdebug]
    exact still_get.bind_atomic fun _ => atomic_pure rfl
  · rw [if_neg hdebug, if_neg hdebug]
    apply (still_send _ _ _ _).bind_atomic
    intro reply
    exact atomic_variable args reply.text _

theorem still_run (limit : Option TimeLimit) : (Execute.run limit).Still := by
  apply still_get.bind
  intro api
  apply (still_ofExcept _).bind
  rintro ⟨interpreter, code⟩
  apply (still_modifyHost fun host => { host with disk := _ }).bind
  intro _
  exact still_ofExcept _

theorem execute_atomic (limit : Option TimeLimit) (args : Arguments) :
    (Execute.work limit args).Atomic (scope (Execute.skill limit).name args) (·.isMessages = true) := by
  apply (still_run limit).bind_atomic
  intro output
  exact atomic_variable args (.str (output : WideString)) _

theorem files_atomic (args : Arguments) :
    (Files.work args).Atomic (scope Files.skill.name args) (·.isMessages = true) := by
  have hset : ∀ disk, (Files.setDisk disk).Still := fun disk => still_modifyHost fun host => { host with disk := disk }
  apply still_get.bind_atomic
  intro api
  apply (still_ofExcept _).bind_atomic
  intro r
  apply (still_ofExcept _).bind_atomic
  intro path
  cases r.action with
  | read => exact (still_ofExcept _).bind_atomic fun _ => atomic_pure rfl
  | write =>
      apply (hset _).bind_atomic
      intro _
      exact (still_ofExcept _).bind_atomic fun _ => atomic_pure rfl
  | delete =>
      apply (still_ofExcept _).bind_atomic
      intro disk
      exact (hset disk).bind_atomic fun _ => atomic_pure rfl

theorem filled?_of_requireText {value : Option Json} {label : String} {text : WideString}
    (h : requireText value label = .ok text) :
    filled? value = some text := by
  unfold requireText at h
  split at h
  · rename_i hfilled
    cases h
    exact hfilled
  · cases h

/-- The user is asked after both arguments were found, so the variable is the one that is named. -/
theorem askUser_atomic (args : Arguments) : (askUser args).Atomic (scope input.name args) (·.isMessages = true) := by
  apply (still_ofExcept _).bind_atomic
  intro prompt
  apply (still_ofExcept _).bind_atomic_of
  intro api name hname
  have hscope : scope input.name args = ⟨false, false, some name.strip⟩ := by
    rw [run_ofExcept] at hname
    change Scope.mk false false (variableName args) = _
    rw [variableName, filled?_of_requireText hname, Option.map_some]
  rw [hscope]
  apply (still_ask prompt).bind_atomic
  intro answer
  exact (atomic_setVariable _ _).bind_pure fun _ => rfl

/-- A built-in skill is one piece of work. -/
theorem exists_work {limit : Option TimeLimit} {s : Skill} (h : s ∈ skills limit) :
    ∃ work : Arguments → Work Product, s.activity = (fun args => .ofWork (work args)) ∧
      ∀ args, (work args).Atomic (scope s.name args) (·.isMessages = true) := by
  simp only [skills, List.mem_cons, List.not_mem_nil, or_false] at h
  rcases h with rfl | rfl | rfl | rfl | rfl | rfl
  · exact ⟨selectContext, rfl, selectContext_atomic⟩
  · exact ⟨selectModel, rfl, selectModel_atomic⟩
  · exact ⟨Task.work, rfl, task_atomic⟩
  · exact ⟨Execute.work limit, rfl, execute_atomic limit⟩
  · exact ⟨Files.work, rfl, files_atomic⟩
  · exact ⟨askUser, rfl, askUser_atomic⟩

/-- Looking at messages again does not make a failure of them. -/
theorem kept_andThen {scope : Scope} {w : Work Product} (h : w.Atomic scope (·.isMessages = true)) (name : String)
    (api : Api) :
    let outcome := ((Activity.ofWork w).andThen (Registry.messagesOf name)).runAlone api
    api.Kept scope outcome.1 outcome.2 := by
  obtain ⟨hkept, hgood⟩ := h api
  change api.Kept scope (w.run api).2 ((w.run api).1.bind (Registry.messagesOf name))
  rcases hrun : w.run api with ⟨e | product, after⟩
  · rw [hrun] at hkept
    exact hkept
  · rw [hrun] at hkept hgood
    have hmessages := hgood product rfl
    cases product with
    | messages messages => exact hkept
    | nothing | other kind => cases hmessages

/-- A built-in skill that fails leaves conversations, variables, queue and model as they were, and one that does not
fail changes no more than its scope allows, whether it is run by itself or by the directive that it is registered for. -/
theorem skills_kept (limit : Option TimeLimit) (s : Skill) (hs : s ∈ skills limit) (args : Arguments) (api : Api) :
    api.Kept (scope s.name args) ((s.activity args).runAlone api).1 ((s.activity args).runAlone api).2 ∧
      ∀ (r : Registry) (name : String), r.get? name = some s →
        api.Kept (scope s.name args) ((r.dispatch name args).runAlone api).1 ((r.dispatch name args).runAlone api).2 := by
  obtain ⟨work, hactivity, hatomic⟩ := exists_work hs
  constructor
  · rw [hactivity]
    exact (hatomic args api).1
  · intro r name hname
    unfold Registry.dispatch
    rw [hname]
    dsimp only
    split
    · rw [hactivity]
      exact kept_andThen (hatomic args) name api
    · exact Api.Same.refl api

/-- A question to a model that repeats it, the answer to go into a variable; and the same without a model. -/
theorem skills_kept_task :
    let args : Arguments := [("prompt", .str "hi"), ("variable", .str " greeting ")]
    let api (client : Option Client) : Api :=
      ⟨⟨[("home", [.user "hello"])], "home", "home"⟩, [("name", "Ada")], client,
        .bare ⟨[]⟩, [], [], 0, ⟨"/", []⟩⟩
    let asked := api (some (.new (some "echo") (.echo none)))
    Task.skill ∈ skills none ∧ ((Task.skill.activity args).runAlone asked).2.toBool = true ∧
      ((Task.skill.activity args).runAlone (api none)).2.toBool = false ∧
      asked.Framed ⟨false, false, some "greeting"⟩ ((Task.skill.activity args).runAlone asked).1 ∧
      (api none).Same ((Task.skill.activity args).runAlone (api none)).1 := by
  intro args api asked
  have hs : Task.skill ∈ skills none := by simp [skills]
  have hdone : ((Task.skill.activity args).runAlone asked).2.toBool = true := by decide +kernel
  have hfailed : ((Task.skill.activity args).runAlone (api none)).2.toBool = false := by decide +kernel
  have hscope : scope Task.skill.name args = ⟨false, false, some "greeting"⟩ := by decide +kernel
  have hasked := (skills_kept none Task.skill hs args asked).1
  have hunasked := (skills_kept none Task.skill hs args (api none)).1
  rw [hscope] at hasked
  exact ⟨hs, hdone, hfailed, hasked.framed hdone, hunasked.same hfailed⟩

end Builtin

end Playbook
