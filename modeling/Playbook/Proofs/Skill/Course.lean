import Playbook.Proofs.Conversation.Contexts
import Playbook.Skill.Builtin
/-!
# What a skill does with its api

A piece of work runs through the operations of the api, one after the other. Its course lists the conversations that it
selects, the messages that it queues and the requests that it makes; whatever else it does leaves conversations, queue
and model alone. So a skill that keeps to the api says nothing in a conversation itself, and all that it asks the model
stands behind the messages of the conversation that it has selected.
-/

namespace Playbook

/-- What a piece of work does that concerns conversations. -/
inductive Deed where
  | select (name : WideString)
  | queue (m : Message)
  /-- A request is made while the conversation is selected. -/
  | send (conversation : WideString) (r : Request)

namespace Deed

def isSelect : Deed → Bool
  | select _ => true
  | queue _ | send .. => false

def queued? : Deed → Option Message
  | queue m => some m
  | select _ | send .. => none

def request? : Deed → Option Request
  | send _ r => some r
  | select _ | queue _ => none

end Deed

/-- The request for a message. -/
def Api.request (api : Api) (role content : WideString) (model : Option WideString) (options : RequestOptions) : Request :=
  ⟨role, content, api.history,
    match model with
    | some model => if model = [] then options else { options with model := some model }
    | none => options⟩

namespace Work

variable {α β : Type} {api api' : Api}

/-! ### Courses -/

/-- What a piece of work that keeps to the api does, begun with an api. -/
inductive Course : {α : Type} → Work α → Api → List Deed → Prop
  | pure {α : Type} (a : α) (api : Api) : Course (Pure.pure a) api []
  | fail {α : Type} (f : Failure) (api : Api) : Course (throw f : Work α) api []
  | look (api : Api) : Course (get : Work Api) api []
  /-- Setting variables, and what is done to the host. -/
  | change {g : Api → Api} (hcontexts : ∀ api, (g api).contexts = api.contexts)
      (hclient : ∀ api, (g api).client = api.client) (hpending : ∀ api, (g api).pending = api.pending) (api : Api) :
      Course (modify g : Work Unit) api []
  | queue (m : Message) (api : Api) :
      Course (modify fun api => { api with pending := api.pending ++ [m] } : Work Unit) api [.queue m]
  | select (name : WideString) (api : Api) : Course (selectContext name) api [.select name]
  | selectModel (model : WideString) (api : Api) : Course (selectModel model) api []
  | send (role content : WideString) (model : Option WideString) (options : RequestOptions) {api : Api}
      (hclient : api.client.isSome = true) :
      Course (send role content model options) api
        [.send api.contexts.selected (api.request role content model options)]
  | unsent (role content : WideString) (model : Option WideString) (options : RequestOptions) {api : Api}
      (hclient : api.client = none) : Course (send role content model options) api []
  | bind {α β : Type} {x : Work α} {f : α → Work β} {api api' : Api} {a : α} {ds ds' : List Deed} (hx : Course x api ds)
      (hrun : x.run api = (.ok a, api')) (hf : Course (f a) api' ds') : Course (x >>= f) api (ds ++ ds')
  | stop {α β : Type} {x : Work α} {f : α → Work β} {api api' : Api} {e : Failure} {ds : List Deed}
      (hx : Course x api ds) (hrun : x.run api = (.error e, api')) : Course (x >>= f) api ds
  /-- A failure may be handled. -/
  | rescue {α : Type} {x : Work α} {f : Failure → Work α} {api api' : Api} {e : Failure} {ds ds' : List Deed}
      (hx : Course x api ds) (hrun : x.run api = (.error e, api')) (hf : Course (f e) api' ds') :
      Course (tryCatch x f) api (ds ++ ds')
  | spare {α : Type} {x : Work α} {f : Failure → Work α} {api api' : Api} {a : α} {ds : List Deed}
      (hx : Course x api ds) (hrun : x.run api = (.ok a, api')) : Course (tryCatch x f) api ds

theorem run_bind_of_ok {x : Work α} {a : α} (h : x.run api = (.ok a, api')) (f : α → Work β) :
    (x >>= f).run api = (f a).run api' := by
  rw [ExceptT.run_bind]
  change StateT.bind x.run _ api = _
  simp only [StateT.bind, bind, h]

theorem run_bind_of_error {x : Work α} {e : Failure} (h : x.run api = (.error e, api')) (f : α → Work β) :
    (x >>= f).run api = (.error e, api') := by
  rw [ExceptT.run_bind]
  change StateT.bind x.run _ api = _
  simp only [StateT.bind, bind, h]
  rfl

theorem run_tryCatch_of_error {x : Work α} {e : Failure} (h : x.run api = (.error e, api')) (f : Failure → Work α) :
    (tryCatch x f).run api = (f e).run api' := by
  change (ExceptT.tryCatch x f).run api = _
  rw [ExceptT.tryCatch, ExceptT.run_mk]
  change StateT.bind x.run _ api = _
  simp only [StateT.bind, bind, h]
  rfl

theorem run_tryCatch_of_ok {x : Work α} {a : α} (h : x.run api = (.ok a, api')) (f : Failure → Work α) :
    (tryCatch x f).run api = (.ok a, api') := by
  change (ExceptT.tryCatch x f).run api = _
  rw [ExceptT.tryCatch, ExceptT.run_mk]
  change StateT.bind x.run _ api = _
  simp only [StateT.bind, bind, h]
  rfl

theorem run_get_bind (f : Api → Work β) (api : Api) : ((get : Work Api) >>= f).run api = (f api).run api :=
  run_bind_of_ok (x := (get : Work Api)) rfl f

/-! ### The operations that a course tells of -/

theorem run_selectContext (name : WideString) (api : Api) :
    (selectContext name).run api = match api.contexts.select name with
      | .ok contexts => (.ok (), { api with contexts := contexts })
      | .error _ => (.error (.skill .blankContextName), api) := by
  unfold selectContext
  rw [run_get_bind]
  cases api.contexts.select name <;> rfl

theorem run_client (api : Api) :
    client.run api = match api.client with
      | some c => (.ok c, api)
      | none => (.error (.skill .noModelClient), api) := by
  unfold client
  rw [run_get_bind]
  cases api.client <;> rfl

theorem run_selectModel (model : WideString) (api : Api) :
    (selectModel model).run api = match api.client with
      | some c => match c.select model with
        | .ok c' => (.ok (), { api with client := some c' })
        | .error e => (.error e, api)
      | none => (.error (.skill .noModelClient), api) := by
  have hclient := run_client api
  unfold selectModel
  cases hc : api.client with
  | none =>
      rw [hc] at hclient
      rw [run_bind_of_error hclient]
  | some c =>
      rw [hc] at hclient
      rw [run_bind_of_ok hclient]
      dsimp only
      cases c.select model <;> rfl

theorem run_send (role content : WideString) (model : Option WideString) (options : RequestOptions) (api : Api) :
    (send role content model options).run api = match api.client with
      | some c => match c.send (api.request role content model options) with
        | (c', .ok reply) => (.ok reply, { api with client := some c' })
        | (_, .error e) => (.error e, api)
      | none => (.error (.skill .noModelClient), api) := by
  have hclient := run_client api
  unfold send
  cases hc : api.client with
  | none =>
      rw [hc] at hclient
      rw [run_bind_of_error hclient]
  | some c =>
      rw [hc] at hclient
      rw [run_bind_of_ok hclient, run_get_bind]
      dsimp only
      unfold Api.request
      cases c.send _ with
      | mk c' answer => cases answer <;> rfl

/-! ### What a course leads to -/

end Work

theorem Client.requests_select {c c' : Client} {model : WideString} (h : c.select model = .ok c') :
    c'.requests = c.requests := by
  have hmap : ∀ {α : Type} (x : Except Failure α) (choice : α → ModelChoice),
      (x.map fun a => { c with choice := choice a }) = .ok c' → c'.requests = c.requests := by
    intro α x choice hx
    cases x with
    | error e => cases hx
    | ok a =>
        cases hx
        rfl
  unfold Client.select at h
  split at h
  · exact hmap _ _ h
  · exact hmap _ _ h
  · exact hmap _ _ h

/-- The requests of a client that sent another one: it is among them if it was answered. -/
theorem Client.requests_send (c : Client) (r : Request) :
    ∃ rs, rs.Sublist [r] ∧ (c.send r).1.requests = c.requests ++ rs := by
  unfold Client.send
  cases c.answer r with
  | ok reply => exact ⟨[r], .refl _, rfl⟩
  | error e => exact ⟨[], List.nil_sublist _, (List.append_nil _).symm⟩

/-- The requests that were answered. -/
def Api.requests (api : Api) : List Request := (api.client.map (·.requests)).getD []

/-- What deeds make of an api, and what the model is asked by them. -/
structure Api.Led (api : Api) (ds : List Deed) (api' : Api) : Prop where
  contexts : api.contexts.Reselected api'.contexts
  unselected : (∀ d ∈ ds, d.isSelect = false) → api'.contexts = api.contexts
  pending : api'.pending = api.pending ++ ds.filterMap Deed.queued?
  requests : ∃ rs, rs.Sublist (ds.filterMap Deed.request?) ∧ api'.requests = api.requests ++ rs
  /-- A request has the messages of the conversation that it is sent from as its history. -/
  history : ∀ conversation r, .send conversation r ∈ ds → r.history = api.contexts.messagesIn conversation
  /-- Without a selection before it, it is sent from the conversation that was selected. -/
  conversation : ∀ ds₁ ds₂ conversation r, ds = ds₁ ++ .send conversation r :: ds₂ →
    (∀ d ∈ ds₁, d.isSelect = false) → conversation = api.contexts.selected

namespace Api.Led

variable {api api' api'' : Api} {ds ds' : List Deed}

theorem nil (hcontexts : api'.contexts = api.contexts) (hpending : api'.pending = api.pending)
    (hrequests : api'.requests = api.requests) : api.Led [] api' where
  contexts := hcontexts ▸ .refl
  unselected _ := hcontexts
  pending := hpending.trans (List.append_nil _).symm
  requests := ⟨[], List.nil_sublist _, hrequests.trans (List.append_nil _).symm⟩
  history _ _ hr := absurd hr List.not_mem_nil
  conversation ds₁ _ _ _ hds := by simp at hds

/-- A single deed that is no request. -/
theorem single {d : Deed} (hrequest : d.request? = none) (hcontexts : api.contexts.Reselected api'.contexts)
    (hselect : d.isSelect = false → api'.contexts = api.contexts)
    (hpending : api'.pending = api.pending ++ d.queued?.toList) (hrequests : api'.requests = api.requests) :
    api.Led [d] api' where
  contexts := hcontexts
  unselected h := hselect (h d List.mem_cons_self)
  pending := by
    rw [hpending]
    cases d <;> rfl
  requests := ⟨[], List.nil_sublist _, hrequests.trans (List.append_nil _).symm⟩
  history conversation r hr := by
    rw [← List.mem_singleton.1 hr] at hrequest
    cases hrequest
  conversation ds₁ ds₂ conversation r hds _ := by
    have hr : .send conversation r ∈ [d] := hds ▸ List.mem_append_right _ List.mem_cons_self
    rw [← List.mem_singleton.1 hr] at hrequest
    cases hrequest

theorem append (h : api.Led ds api') (h' : api'.Led ds' api'') : api.Led (ds ++ ds') api'' where
  contexts := h.contexts.trans h'.contexts
  unselected hds :=
    (h'.unselected fun d hd => hds d (List.mem_append_right _ hd)).trans
      (h.unselected fun d hd => hds d (List.mem_append_left _ hd))
  pending := by rw [h'.pending, h.pending, List.filterMap_append, List.append_assoc]
  requests := by
    obtain ⟨rs, hrs, heq⟩ := h.requests
    obtain ⟨rs', hrs', heq'⟩ := h'.requests
    refine ⟨rs ++ rs', ?_, by rw [heq', heq, List.append_assoc]⟩
    rw [List.filterMap_append]
    exact hrs.append hrs'
  history conversation r hr := by
    rcases List.mem_append.1 hr with hr | hr
    · exact h.history conversation r hr
    · exact (h'.history conversation r hr).trans (h.contexts.messagesIn_eq conversation)
  conversation ds₁ ds₂ conversation r hds hnone := by
    -- The request is made in the first part, or else the first part is all before it.
    rcases List.append_eq_append_iff.1 hds with ⟨as, rfl, has⟩ | ⟨bs, rfl, has⟩
    · rw [← h.unselected fun d hd => hnone d (List.mem_append_left _ hd)]
      exact h'.conversation as ds₂ conversation r has fun d hd => hnone d (List.mem_append_right _ hd)
    · cases bs with
      | nil =>
          rw [List.append_nil] at h
          rw [← h.unselected hnone]
          exact h'.conversation [] ds₂ conversation r has.symm fun d hd => absurd hd List.not_mem_nil
      | cons d bs =>
          cases has
          exact h.conversation ds₁ bs conversation r rfl hnone

end Api.Led

namespace Work

variable {α β : Type} {api api' : Api}

theorem led_selectContext (name : WideString) (api : Api) : api.Led [.select name] ((selectContext name).run api).2 := by
  rw [run_selectContext]
  cases hselect : api.contexts.select name with
  | ok contexts => exact .single rfl (.select .refl hselect) nofun (List.append_nil _).symm rfl
  | error f => exact .single rfl .refl nofun (List.append_nil _).symm rfl

theorem led_selectModel (model : WideString) (api : Api) : api.Led [] ((selectModel model).run api).2 := by
  rw [run_selectModel]
  cases hclient : api.client with
  | none => exact .nil rfl rfl rfl
  | some c =>
      dsimp only
      cases hselect : c.select model with
      | error e => exact .nil rfl rfl rfl
      | ok c' =>
          refine .nil rfl rfl ?_
          simp only [Api.requests, hclient, Option.map_some, Option.getD_some, Client.requests_select hselect]

/-- A request leaves no trace but that the client remembers it if it was answered. -/
theorem led_send (role content : WideString) (model : Option WideString) (options : RequestOptions)
    (hclient : api.client.isSome = true) :
    api.Led [.send api.contexts.selected (api.request role content model options)]
      ((send role content model options).run api).2 := by
  obtain ⟨c, hc⟩ := Option.isSome_iff_exists.1 hclient
  obtain ⟨rs, hrs, hrequests⟩ := c.requests_send (api.request role content model options)
  have hrun := run_send role content model options api
  rw [hc] at hrun
  have hkept : ((send role content model options).run api).2.contexts = api.contexts ∧
      ((send role content model options).run api).2.pending = api.pending ∧
      ∃ rs, rs.Sublist [api.request role content model options] ∧
        ((send role content model options).run api).2.requests = api.requests ++ rs := by
    rw [hrun]
    dsimp only
    cases hsend : c.send (api.request role content model options) with
    | mk c' answer =>
        rw [hsend] at hrequests
        cases answer with
        | error e => exact ⟨rfl, rfl, [], List.nil_sublist _, (List.append_nil _).symm⟩
        | ok reply => exact ⟨rfl, rfl, rs, hrs, by simpa [Api.requests, hc] using hrequests⟩
  obtain ⟨hcontexts, hpending, hanswered⟩ := hkept
  refine ⟨hcontexts ▸ .refl, fun _ => hcontexts, hpending.trans (List.append_nil _).symm, hanswered, ?_, ?_⟩
  · intro conversation r hr
    cases List.mem_singleton.1 hr
    rfl
  · intro ds₁ ds₂ conversation r hds _
    have hr := hds ▸ List.mem_append_right ds₁ (List.mem_cons_self (a := Deed.send conversation r) (l := ds₂))
    cases List.mem_singleton.1 hr
    rfl

/-- Work that keeps to the api does no more than its course says. -/
theorem Course.led {x : Work α} {ds : List Deed} (h : Course x api ds) : api.Led ds (x.run api).2 := by
  induction h with
  | pure | fail | look => exact .nil rfl rfl rfl
  | @change g hcontexts hclient hpending api =>
      have hrequests : (g api).requests = api.requests := by
        unfold Api.requests
        rw [hclient]
      exact .nil (hcontexts api) (hpending api) hrequests
  | queue m api => exact .single rfl .refl (fun _ => rfl) rfl rfl
  | select name api => exact led_selectContext name api
  | selectModel model api => exact led_selectModel model api
  | send role content model options hclient => exact led_send role content model options hclient
  | unsent role content model options hclient =>
      rw [run_send, hclient]
      exact .nil rfl rfl rfl
  | bind hx hrun hf ihx ihf =>
      rw [hrun] at ihx
      rw [run_bind_of_ok hrun]
      exact ihx.append ihf
  | stop hx hrun ihx =>
      rw [hrun] at ihx
      rw [run_bind_of_error hrun]
      exact ihx
  | rescue hx hrun hf ihx ihf =>
      rw [hrun] at ihx
      rw [run_tryCatch_of_error hrun]
      exact ihx.append ihf
  | spare hx hrun ihx =>
      rw [hrun] at ihx
      rw [run_tryCatch_of_ok hrun]
      exact ihx

/-! ### Work that keeps to the api -/

/-- Begun with any api it has a course. -/
def HasCourse (x : Work α) : Prop := ∀ api, ∃ ds, Course x api ds

theorem hasCourse_throw (f : Failure) : HasCourse (throw f : Work α) := fun api => ⟨[], .fail f api⟩

theorem HasCourse.bind {x : Work α} {f : α → Work β} (hx : x.HasCourse) (hf : ∀ a, (f a).HasCourse) :
    (x >>= f).HasCourse := by
  intro api
  obtain ⟨ds, hcourse⟩ := hx api
  rcases hrun : x.run api with ⟨a | a, api'⟩
  · exact ⟨ds, hcourse.stop hrun⟩
  · obtain ⟨ds', hcourse'⟩ := hf a api'
    exact ⟨ds ++ ds', hcourse.bind hrun hcourse'⟩

theorem HasCourse.tryCatch {x : Work α} {f : Failure → Work α} (hx : x.HasCourse) (hf : ∀ e, (f e).HasCourse) :
    (tryCatch x f).HasCourse := by
  intro api
  obtain ⟨ds, hcourse⟩ := hx api
  rcases hrun : x.run api with ⟨e | a, api'⟩
  · obtain ⟨ds', hcourse'⟩ := hf e api'
    exact ⟨ds ++ ds', hcourse.rescue hrun hcourse'⟩
  · exact ⟨ds, hcourse.spare hrun⟩

theorem hasCourse_queue (role content : WideString) : (queue role content).HasCourse := by
  unfold queue
  cases Message.parse role content with
  | error e => exact hasCourse_throw e
  | ok m => exact fun api => ⟨_, .queue m api⟩

end Work

/-! ### Skills that keep to the api -/

namespace Activity

variable {α β : Type}

/-- All its pieces of work keep to the api. -/
def HasCourses : Activity α → Prop
  | finish _ => True
  | work piece next => piece.HasCourse ∧ ∀ result, (next result).HasCourses
  | wait _ next => next.HasCourses
  | command _ next => ∀ answer, (next answer).HasCourses

theorem HasCourses.andThen {a : Activity α} (h : a.HasCourses) (f : α → Except Failure β) :
    (a.andThen f).HasCourses := by
  induction a with
  | finish result => trivial
  | work piece next ih => exact ⟨h.1, fun result => ih result (h.2 result)⟩
  | wait gate next ih => exact ih h
  | command c next ih => exact fun answer => ih answer (h answer)

end Activity

def Skill.HasCourses (s : Skill) : Prop := ∀ args, (s.activity args).HasCourses

namespace Registry

def HasCourses (r : Registry) : Prop := ∀ p ∈ r, p.2.HasCourses

/-- A directive does what its skill does, or fails at once. -/
theorem dispatch_cases (r : Registry) (name : String) (args : Arguments) :
    (∃ f, r.dispatch name args = .finish (.error f)) ∨
      ∃ s, (name, s) ∈ r ∧ r.dispatch name args = (s.activity args).andThen (messagesOf name) := by
  unfold dispatch
  cases hs : r.get? name with
  | none => exact .inl ⟨_, rfl⟩
  | some s =>
      obtain ⟨l, l', hr, -⟩ := List.lookup_eq_some_iff.1 hs
      dsimp only
      split
      · exact .inr ⟨s, hr ▸ List.mem_append_right l List.mem_cons_self, rfl⟩
      · exact .inl ⟨_, rfl⟩

theorem HasCourses.dispatch {r : Registry} (h : r.HasCourses) (name : String) (args : Arguments) :
    (r.dispatch name args).HasCourses := by
  rcases r.dispatch_cases name args with ⟨f, hfails⟩ | ⟨s, hs, hdoes⟩
  · rw [hfails]
    trivial
  · rw [hdoes]
    exact (h _ hs args).andThen (messagesOf name)

end Registry

/-! ### The built-in skills -/

namespace Builtin

open Work

end Builtin

end Playbook
