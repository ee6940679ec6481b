import Playbook.Proofs.Skill.Course
/-!
# What a skill can tell apart

A model client keeps a list of the requests that it has answered, but none of its answers depends on it, and a skill has
no way to read it. Two apis that differ in nothing else look alike: a piece of work brings the same on both, and they
look alike afterwards. To skills that only talk to the model and about their own conversations and variables, apis
also look alike if the hosts differ.
-/

namespace Playbook

/-! ### Apis that look alike -/

/-- The client without its list of answered requests. -/
def Client.still (c : Client) : Client := { c with requests := [] }

/-- The two are alike to a skill; `hosted` says whether the skill may look at the host. -/
structure Api.Like (hosted : Bool) (a b : Api) : Prop where
  contexts : a.contexts = b.contexts
  bindings : a.bindings = b.bindings
  client : a.client.map Client.still = b.client.map Client.still
  host : hosted = true → a.host = b.host
  pending : a.pending = b.pending
  blocks : a.blocks = b.blocks
  index : a.index = b.index
  root : a.root = b.root

section Like

variable {hosted : Bool} {a b : Api} {c c' : Client}

theorem Api.Like.request (h : a.Like hosted b) (role content : WideString) (model : Option WideString)
    (options : RequestOptions) : a.request role content model options = b.request role content model options := by
  unfold Api.request Api.history
  rw [h.contexts]

/-- The clients are all that a skill that sees the host may be mistaken in. -/
theorem Api.Like.eq (h : a.Like true b) : b = { a with client := b.client } := by
  obtain ⟨hcontexts, hbindings, -, hhost, hpending, hblocks, hindex, hroot⟩ := h
  cases a
  cases b
  simp_all

theorem Api.Like.setClient (h : a.Like hosted b) (hclient : c.still = c'.still) :
    Api.Like hosted { a with client := some c } { b with client := some c' } :=
  ⟨h.contexts, h.bindings, congrArg some hclient, h.host, h.pending, h.blocks, h.index, h.root⟩

/-- Both have no client, or clients that are alike. -/
theorem Api.Like.clients (h : a.Like hosted b) :
    a.client = none ∧ b.client = none ∨
      ∃ c c', a.client = some c ∧ b.client = some c' ∧ c.still = c'.still := by
  have hclient := h.client
  cases ha : a.client with
  | none =>
      rw [ha] at hclient
      exact .inl ⟨rfl, Option.map_eq_none_iff.1 hclient.symm⟩
  | some c =>
      rw [ha] at hclient
      obtain ⟨c', hb, hstill⟩ := Option.map_eq_some_iff.1 hclient.symm
      exact .inr ⟨c, c', rfl, hb, hstill.symm⟩

theorem Client.eq_of_still (h : c.still = c'.still) : c' = { c with requests := c'.requests } := by
  cases c
  cases c'
  simp_all [still]

theorem Client.select_with (c : Client) (rs : List Request) (model : WideString) :
    ({ c with requests := rs } : Client).select model = (c.select model).map fun d => { d with requests := rs } := by
  unfold select
  cases c.backend with
  | echo known =>
      dsimp only
      cases Echo.accept known model <;> rfl
  | service s loop limit outcome script =>
      dsimp only
      cases (s.select c.choice model outcome).result <;> rfl
  | server s loop limit outcome script =>
      dsimp only
      cases (s.select c.choice model outcome).result <;> rfl

/-- What a client answers does not depend on the requests before. -/
theorem Client.answer_with (c : Client) (rs : List Request) (r : Request) :
    ({ c with requests := rs } : Client).answer r = c.answer r := rfl

end Like

/-! ### Work that cannot tell them apart -/

namespace Work

variable {α β : Type} {hosted : Bool} {a b : Api}

/-- The same comes of the work on apis that look alike, and they look alike afterwards. -/
def Respects (hosted : Bool) (x : Work α) : Prop :=
  ∀ a b : Api, a.Like hosted b → (x.run a).1 = (x.run b).1 ∧ (x.run a).2.Like hosted (x.run b).2

theorem respects_pure (x : α) : Respects hosted (Pure.pure x) := fun _ _ h => ⟨rfl, h⟩

theorem respects_throw (f : Failure) : Respects hosted (throw f : Work α) := fun _ _ h => ⟨rfl, h⟩

theorem respects_ofExcept (x : Except Failure α) : Respects hosted (ofExcept x) := by
  cases x with
  | error f => exact respects_throw f
  | ok x => exact respects_pure x

theorem respects_modify {g : Api → Api} (hg : ∀ a b, Api.Like hosted a b → (g a).Like hosted (g b)) :
    Respects hosted (modify g : Work Unit) := fun a b h => ⟨rfl, hg a b h⟩

theorem Respects.bind {x : Work α} {f : α → Work β} (hx : x.Respects hosted) (hf : ∀ r, (f r).Respects hosted) :
    (x >>= f).Respects hosted := by
  intro a b h
  obtain ⟨hresult, hafter⟩ := hx a b h
  rcases hrun : x.run a with ⟨e | r, a'⟩
  all_goals
    rcases hrun' : x.run b with ⟨e' | r', b'⟩
    all_goals
      rw [hrun, hrun'] at hresult hafter
      cases hresult
  · rw [run_bind_of_error hrun, run_bind_of_error hrun']
    exact ⟨rfl, hafter⟩
  · rw [run_bind_of_ok hrun, run_bind_of_ok hrun']
    exact hf r a' b' hafter

/-- Work that looks at the api first and goes on in the same way with apis that look alike. -/
theorem respects_look {f : Api → Work β} (hsame : ∀ a b, Api.Like hosted a b → f a = f b)
    (hf : ∀ a, (f a).Respects hosted) : ((get : Work Api) >>= f).Respects hosted := by
  intro a b h
  rw [run_get_bind, run_get_bind, ← hsame a b h]
  exact hf a a b h

/-! ### The operations of the api -/

theorem respects_selectContext (name : WideString) : (selectContext name).Respects hosted := by
  intro a b h
  rw [run_selectContext, run_selectContext, ← h.contexts]
  cases a.contexts.select name with
  | ok contexts => exact ⟨rfl, rfl, h.bindings, h.client, h.host, h.pending, h.blocks, h.index, h.root⟩
  | error e => exact ⟨rfl, h⟩

theorem respects_selectModel (model : WideString) : (selectModel model).Respects hosted := by
  intro a b h
  rw [run_selectModel, run_selectModel]
  rcases h.clients with ⟨ha, hb⟩ | ⟨c, c', ha, hb, hstill⟩
  · rw [ha, hb]
    exact ⟨rfl, h⟩
  · rw [ha, hb, Client.eq_of_still hstill]
    simp only [Client.select_with]
    cases c.select model with
    | error e => exact ⟨rfl, h⟩
    | ok d => exact ⟨rfl, h.setClient rfl⟩

theorem respects_send (role content : WideString) (model : Option WideString) (options : RequestOptions) :
    (send role content model options).Respects hosted := by
  intro a b h
  rw [run_send, run_send, ← h.request]
  rcases h.clients with ⟨ha, hb⟩ | ⟨c, c', ha, hb, hstill⟩
  · rw [ha, hb]
    exact ⟨rfl, h⟩
  · rw [ha, hb, Client.eq_of_still hstill]
    simp only [Client.send, Client.answer_with]
    cases c.answer (a.request role content model options) with
    | error e => exact ⟨rfl, h⟩
    | ok reply => exact ⟨rfl, h.setClient rfl⟩

theorem respects_setVariable (name : WideString) (value : Json) : (setVariable name value).Respects hosted := by
  refine respects_look (fun a b h => by rw [h.bindings]) fun a => ?_
  cases a.bindings.setValue name value with
  | error e => exact respects_throw e
  | ok bindings =>
      refine respects_modify fun a b h => ?_
      exact ⟨h.contexts, rfl, h.client, h.host, h.pending, h.blocks, h.index, h.root⟩

theorem respects_substitute (text : WideString) (keepUnknown : Bool) : (substitute text keepUnknown).Respects hosted :=
  respects_look (fun a b h => by rw [h.bindings]) fun _ => respects_pure _

/-- What is done to the host is done by skills that may look at it. -/
theorem respects_modifyHost (g : Host → Host) :
    Respects true (modify fun api => { api with host := g api.host } : Work Unit) :=
  respects_modify fun _ _ h => ⟨h.contexts, h.bindings, h.client, fun hosted => congrArg g (h.host hosted), h.pending,
    h.blocks, h.index, h.root⟩

theorem respects_ask (prompt : WideString) : (ask prompt).Respects true := by
  refine respects_look (fun a b h => by rw [h.host rfl]) fun a => ?_
  obtain ⟨host, answer⟩ := a.host.ask prompt
  refine (respects_modifyHost fun _ => host).bind fun _ => ?_
  cases answer with
  | error e => exact respects_throw e
  | ok text => exact respects_pure text

end Work

/-! ### Skills that keep to their session -/

namespace Activity

variable {α β : Type} {works works' : Work Product → Prop}

/-- No commands are given, and every piece of work is one of those that `works` allows. -/
def Confined (works : Work Product → Prop) : Activity α → Prop
  | finish _ => True
  | work piece next => works piece ∧ ∀ result, (next result).Confined works
  | wait _ next => next.Confined works
  | command .. => False

theorem Confined.andThen {a : Activity α} (h : a.Confined works) (f : α → Except Failure β) :
    (a.andThen f).Confined works := by
  induction a with
  | finish result => trivial
  | work piece next ih => exact ⟨h.1, fun result => ih result (h.2 result)⟩
  | wait gate next ih => exact ih h
  | command c next ih => exact h

theorem Confined.mono {a : Activity α} (h : a.Confined works) (hworks : ∀ piece, works piece → works' piece) :
    a.Confined works' := by
  induction a with
  | finish result => trivial
  | work piece next ih => exact ⟨hworks piece h.1, fun result => ih result (h.2 result)⟩
  | wait gate next ih => exact ih h
  | command c next ih => exact h

end Activity

/-- The directives among the blocks keep their skills to the session. -/
def Registry.Confines (r : Registry) (works : Work Product → Prop) (blocks : List Block) : Prop :=
  ∀ b ∈ blocks, b.isDirective = true → (r.dispatch b.name b.arguments).Confined works

theorem Skill.ofWork_confined (name description : String) (parameters : List Parameter) (takesNextBlock : Bool)
    {work : Arguments → Work Product} {works : Work Product → Prop} (h : ∀ args, works (work args)) (args : Arguments) :
    ((ofWork name description parameters takesNextBlock work).activity args).Confined works :=
  ⟨h args, fun _ => trivial⟩

/-! ### The built-in skills -/

namespace Builtin

open Work

variable {hosted : Bool}

theorem respects_variable (name : Option WideString) (value : Json) {x : Work Product} (hx : x.Respects hosted) :
    (do if let some name := name then Work.setVariable name.strip value
        x : Work Product).Respects hosted := by
  cases name with
  | none => exact hx
  | some name => exact (respects_setVariable _ _).bind fun _ => hx

theorem selectContext_respects (args : Arguments) : (selectContext args).Respects hosted :=
  (respects_ofExcept _).bind fun name => (respects_selectContext name).bind fun _ => respects_pure _

theorem selectModel_respects (args : Arguments) : (selectModel args).Respects hosted :=
  (respects_ofExcept _).bind fun _ => (respects_selectModel _).bind fun _ => respects_pure _

theorem task_respects (args : Arguments) : (Task.work args).Respects hosted := by
  refine (respects_ofExcept _).bind fun _ => (respects_substitute _ _).bind fun prompt => ?_
  split
  · refine respects_look (fun a b h => ?_) fun _ => respects_pure _
    rw [Api.history, Api.history, h.contexts]
  · exact (respects_send _ _ _ _).bind fun _ => respects_variable _ _ (respects_pure _)

theorem askUser_respects (args : Arguments) : (askUser args).Respects true :=
  (respects_ofExcept _).bind fun prompt => (respects_ofExcept _).bind fun _ =>
    (respects_ask prompt).bind fun _ => (respects_setVariable _ _).bind fun _ => respects_pure _

theorem execute_respects (limit : Option TimeLimit) (args : Arguments) : (Execute.work limit args).Respects true := by
  have hrun : (Execute.run limit).Respects true := by
    refine respects_look (fun a b h => by rw [h.eq]; rfl) fun api => ?_
    refine (respects_ofExcept _).bind fun _ => ?_
    exact (respects_modifyHost fun host => { host with disk := _ }).bind fun _ => respects_ofExcept _
  exact hrun.bind fun _ => respects_variable _ _ (respects_pure _)

theorem files_respects (args : Arguments) : (Files.work args).Respects true := by
  have hset : ∀ disk, (Files.setDisk disk).Respects true := fun disk =>
    respects_modifyHost fun host => { host with disk := disk }
  refine respects_look (fun a b h => by rw [h.eq]; rfl) fun api => ?_
  refine (respects_ofExcept _).bind fun r => (respects_ofExcept _).bind fun path => ?_
  cases r.action with
  | read => exact (respects_ofExcept _).bind fun _ => respects_pure _
  | write => exact (hset _).bind fun _ => (respects_ofExcept _).bind fun _ => respects_pure _
  | delete => exact (respects_ofExcept _).bind fun _ => (hset _).bind fun _ => respects_pure _

/-- It is enough to look at the skills that the blocks name. -/
theorem confines_of_skills {works : Work Product → Prop} {limit : Option TimeLimit} {blocks : List Block}
    (h : ∀ s ∈ skills limit, (∃ b ∈ blocks, b.isDirective = true ∧ b.name = s.name) →
      ∀ args, (s.activity args).Confined works) : (registry limit).Confines works blocks := by
  intro b hb hdirective
  rcases (registry limit).dispatch_cases b.name b.arguments with ⟨f, hfails⟩ | ⟨s, hs, hdoes⟩
  · rw [hfails]
    trivial
  · obtain ⟨s', hmem, hs'⟩ := List.mem_map.1 hs
    obtain ⟨hname, rfl⟩ := Prod.mk.inj hs'
    rw [hdoes]
    exact (h s' hmem ⟨b, hb, hdirective, hname.symm⟩ _).andThen _

/-- No built-in skill leaves its session. -/
theorem registry_confines (limit : Option TimeLimit) (blocks : List Block) :
    (registry limit).Confines (Respects true) blocks := by
  refine confines_of_skills fun s hs _ => ?_
  simp only [skills, List.mem_cons, List.not_mem_nil, or_false] at hs
  rcases hs with rfl | rfl | rfl | rfl | rfl | rfl
  · exact Skill.ofWork_confined _ _ _ _ selectContext_respects
  · exact Skill.ofWork_confined _ _ _ _ selectModel_respects
  · exact Skill.ofWork_confined _ _ _ _ task_respects
  · exact Skill.ofWork_confined _ _ _ _ (execute_respects limit)
  · exact Skill.ofWork_confined _ _ _ _ files_respects
  · exact Skill.ofWork_confined _ _ _ _ askUser_respects

/-- The skills that select a conversation or a model and those that talk to the model do not look at the host. -/
theorem confines_of_names {limit : Option TimeLimit} {blocks : List Block}
    (h : ∀ b ∈ blocks, b.isDirective = true → b.name ∈ [context.name, model.name, Task.skill.name]) :
    (registry limit).Confines (Respects false) blocks := by
  refine confines_of_skills fun s hs hnamed => ?_
  obtain ⟨b, hb, hdirective, hname⟩ := hnamed
  have hmem := h b hb hdirective
  rw [hname] at hmem
  simp only [skills, List.mem_cons, List.not_mem_nil, or_false] at hs
  rcases hs with rfl | rfl | rfl | rfl | rfl | rfl
  · exact Skill.ofWork_confined _ _ _ _ selectContext_respects
  · exact Skill.ofWork_confined _ _ _ _ selectModel_respects
  · exact Skill.ofWork_confined _ _ _ _ task_respects
  · exact absurd (show "execute" ∈ ["context", "model", "task"] from hmem) (by decide)
  · exact absurd (show "file" ∈ ["context", "model", "task"] from hmem) (by decide)
  · exact absurd (show "input" ∈ ["context", "model", "task"] from hmem) (by decide)

end Builtin

end Playbook
