import Mathlib.Data.ENat.Lattice
import Playbook.Model.Client
import Playbook.Proofs.Model.Answers
/-!
# Attempts of a request

How often a request is made over a network, and which attempt it is that decides. The attempts stop at the first outcome
that does not pass, or at the limit, and the request comes to what the outcome of the last one is read as. This is the
same for all clients that use a network; they differ in which outcomes pass.
-/

namespace Playbook

namespace Retry

variable {α : Type}

theorem outcomeAt_mem (outcome : α) (script : List α) (i : ℕ) : outcomeAt outcome script i ∈ outcome :: script := by
  rw [outcomeAt]
  cases h : (outcome :: script)[i]? with
  | some o => exact List.mem_of_getElem? h
  | none => exact List.getLastD_mem_cons

/-- The number of the first call whose outcome does not pass, and infinity where every outcome does. -/
noncomputable def firstLasting (Passes : α → Prop) (outcomes : ℕ → α) : ℕ∞ :=
  ⨅ (i : ℕ) (_ : ¬ Passes (outcomes i)), ((i + 1 : ℕ) : ℕ∞)

variable {Passes : α → Prop} {outcomes : ℕ → α} {n : ℕ}

theorem lt_firstLasting (h : ∀ i < n, Passes (outcomes i)) : (n : ℕ∞) < firstLasting Passes outcomes := by
  have hle : ((n + 1 : ℕ) : ℕ∞) ≤ firstLasting Passes outcomes := by
    refine le_iInf₂ fun i hi => ?_
    have hni : n ≤ i := not_lt.1 fun hlt => hi (h i hlt)
    exact_mod_cast Nat.succ_le_succ hni
  exact lt_of_lt_of_le (by exact_mod_cast n.lt_succ_self) hle

theorem firstLasting_eq (h : ∀ i < n, Passes (outcomes i)) (hn : ¬ Passes (outcomes n)) :
    firstLasting Passes outcomes = ((n + 1 : ℕ) : ℕ∞) := by
  refine le_antisymm (iInf₂_le n hn) ?_
  exact_mod_cast Order.add_one_le_of_lt (lt_firstLasting h)

/-- The outcome of the last call is one of those that the script holds. -/
theorem Loop.outcome_mem (loop : Loop α) (isTransient : α → Bool) (limit : ℕ) (outcome : α) (script : List α) :
    (loop.run isTransient limit outcome script).outcome ∈ outcome :: script := by
  rw [(loop.follows isTransient limit outcome script).last]
  exact outcomeAt_mem outcome script _

/-- All calls are within the limit, as far as one is. -/
theorem Follows.calls_le {c : Course α} {isTransient : α → Bool} {limit : ℕ} (h : Follows isTransient limit outcomes c)
    (hlimit : 1 ≤ limit) : c.calls ≤ limit := by
  obtain ⟨n, hn⟩ := Nat.exists_eq_add_one_of_ne_zero h.first.ne'
  rw [hn]
  cases n with
  | zero => exact hlimit
  | succ n =>
      have hlast := (h.again n (by omega)).2
      omega

end Retry

/-! ### Retried requests -/

/-- A request that is made again while its outcome passes: the calls are all the same, they end with the first outcome that
does not pass or at the limit, and the last of them decides. -/
structure Retried {Outcome Call : Type} (Passes : Outcome → Prop) (Decides : Outcome → Except Failure Reply → Prop)
    (limit : ℕ) (outcomes : ℕ → Outcome) (call : Call) (calls : List Call) (result : Except Failure Reply) : Prop where
  same : ∀ c ∈ calls, c = call
  length : (calls.length : ℕ∞) = min (limit : ℕ∞) (Retry.firstLasting Passes outcomes)
  decided : ∀ k : ℕ, Retry.firstLasting Passes outcomes = k → k ≤ limit → Decides (outcomes (k - 1)) result
  exhausted : (limit : ℕ∞) < Retry.firstLasting Passes outcomes →
    Decides (outcomes (limit - 1)) result ∧ ∃ fault, result = .error (.model fault)

theorem Retried.of_follows {Outcome Call : Type} {Passes : Outcome → Prop} {isTransient : Outcome → Bool}
    {Decides : Outcome → Except Failure Reply → Prop} {limit : ℕ} {outcomes : ℕ → Outcome} {course : Retry.Course Outcome}
    (hfollows : Retry.Follows isTransient limit outcomes course) (call : Call) {result : Except Failure Reply}
    (hlimit : 1 ≤ limit) (hpasses : ∀ o, isTransient o = true ↔ Passes o) (hdecides : Decides course.outcome result)
    (hfault : ∀ o, Passes o → Decides o result → ∃ fault, result = .error (.model fault)) :
    Retried Passes Decides limit outcomes call (List.replicate course.calls call) result := by
  obtain ⟨n, hn⟩ := Nat.exists_eq_add_one_of_ne_zero hfollows.first.ne'
  have hpassed : ∀ i < n, Passes (outcomes i) := fun i hi => (hpasses _).1 (hfollows.again i (by omega)).1
  have hlast : course.outcome = outcomes n := by rw [hfollows.last, hn, Nat.add_sub_cancel]
  have hwithin : n + 1 ≤ limit := hn ▸ hfollows.calls_le hlimit
  rw [hlast] at hdecides
  rw [hn]
  by_cases hpass : Passes (outcomes n)
  · -- The outcomes up to the limit pass, all of them.
    obtain rfl : limit = n + 1 := by
      have hended := hfollows.stops (hlast ▸ (hpasses _).2 hpass)
      omega
    have hlt : ((n + 1 : ℕ) : ℕ∞) < Retry.firstLasting Passes outcomes :=
      Retry.lt_firstLasting fun i hi => (Nat.lt_succ_iff_lt_or_eq.1 hi).elim (hpassed i) fun heq => heq ▸ hpass
    exact {
      same := fun c hc => List.eq_of_mem_replicate hc
      length := by rw [List.length_replicate, min_eq_left hlt.le]
      decided := fun k hk hle => absurd (hk ▸ hlt) (not_lt.2 (by exact_mod_cast hle))
      exhausted := fun _ => ⟨hdecides, hfault _ hpass hdecides⟩ }
  · have hfirst := Retry.firstLasting_eq hpassed hpass
    have hle : ((n + 1 : ℕ) : ℕ∞) ≤ (limit : ℕ∞) := by exact_mod_cast hwithin
    exact {
      same := fun c hc => List.eq_of_mem_replicate hc
      length := by rw [List.length_replicate, hfirst, min_eq_right hle]
      decided := fun k hk _ => by
        obtain rfl : n + 1 = k := by exact_mod_cast hfirst.symm.trans hk
        exact hdecides
      exhausted := fun hlt => absurd (hfirst ▸ hlt) (not_lt.2 hle) }

/-! ### The adapters -/

/-- The outcomes of a service after which a request is made again: there is no connection, or it takes too long, or there
are too many requests, or the service itself fails. -/
inductive ServiceOutcome.Passes : ServiceOutcome → Prop
  | connection (text : WideString) : Passes (.fault .connection text)
  | timeout (text : WideString) : Passes (.fault .timeout text)
  | rateLimit (text : WideString) : Passes (.fault .rateLimit text)
  | server (text : WideString) : Passes (.fault .server text)

theorem ServiceOutcome.isTransient_iff (o : ServiceOutcome) : o.isTransient = true ↔ o.Passes := by
  constructor
  · intro h
    cases o with
    | response body => cases h
    | fault kind text =>
        cases kind with
        | connection => exact .connection text
        | timeout => exact .timeout text
        | rateLimit => exact .rateLimit text
        | server => exact .server text
        | _ => cases h
  · rintro (_ | _ | _ | _) <;> rfl

/-- The outcomes of a call to a server after which it is made again: no answer came. -/
inductive Http.Outcome.Passes : Http.Outcome → Prop
  | unreachable (text : WideString) : Passes (.unreachable text)

theorem Http.Outcome.isTransient_iff (o : Http.Outcome) : o.isTransient = true ↔ o.Passes := by
  constructor
  · intro h
    cases o with
    | unreachable text => exact .unreachable text
    | response status body => cases h
  · rintro ⟨_⟩
    rfl

/-- What the answer of a service decides: a response is read, and a fault of the service is one of the model. -/
inductive Service.Decides (s : Service) : ServiceOutcome → Except Failure Reply → Prop
  | fault {kind : ServiceFault} (text : WideString) (h : kind ≠ .foreign) :
      s.Decides (.fault kind text) (.error (.model (.requestFailed text)))
  | reply {body : Json} {reply : Reply} (h : s.readReply body = .ok reply) : s.Decides (.response body) (.ok reply)
  | noChoices {body : Json} (h : s.readReply body = .error (.model .noChoices)) :
      s.Decides (.response body) (.error (.model .noChoices))

theorem Service.Decides.fault_of_passes {s : Service} {o : ServiceOutcome} {result : Except Failure Reply}
    (hpasses : o.Passes) (h : s.Decides o result) : ∃ fault, result = .error (.model fault) := by
  cases h with
  | fault text _ => exact ⟨_, rfl⟩
  | reply _ => cases hpasses
  | noChoices _ => cases hpasses

theorem LocalServer.Decides.fault_of_passes {s : LocalServer} {url : String} {model : WideString} {o : Http.Outcome}
    {result : Except Failure Reply} (hpasses : o.Passes) (h : s.Decides url model o result) :
    ∃ fault, result = .error (.model fault) := by
  cases hpasses with
  | unreachable text =>
      cases h with
      | refused h => exact ⟨_, rfl⟩
      | answered hdata _ => cases hdata

section Send

variable {choice : ModelChoice} {limit : ℕ} {r : Request} {role : Role} {model : WideString}

theorem Service.retried_send (s : Service) (loop : Retry.Loop ServiceOutcome) {outcome : ServiceOutcome}
    {script : List ServiceOutcome} (hlimit : 1 ≤ limit) (hrole : Request.checkRole r.role = .ok role)
    (hmodel : choice.resolve s.name r.options = .ok model)
    (hsound : ∀ o ∈ outcome :: script, ∃ result, s.Decides o result) :
    Retried ServiceOutcome.Passes s.Decides limit (Retry.outcomeAt outcome script)
      (ServiceCall.create (s.requestFields model (Request.transcript r.history role r.content) r.options))
      (s.send loop choice limit r outcome script).calls (s.send loop choice limit r outcome script).result := by
  obtain ⟨decided, hdecided⟩ := hsound _ (loop.outcome_mem ServiceOutcome.isTransient limit outcome script)
  rw [send, hrole, hmodel]
  refine Retried.of_follows (loop.follows ServiceOutcome.isTransient limit outcome script) _ hlimit
    ServiceOutcome.isTransient_iff ?_ fun _ => Decides.fault_of_passes
  dsimp only
  generalize (loop.run ServiceOutcome.isTransient limit outcome script).outcome = last at hdecided
  cases hdecided with
  | reply h =>
      dsimp only
      rw [h]
      exact .reply h
  | noChoices h =>
      dsimp only
      rw [h]
      exact .noChoices h
  | @fault kind text hkind =>
      cases kind with
      | foreign => exact absurd rfl hkind
      | _ => exact .fault text hkind

theorem LocalServer.retried_send (s : LocalServer) (loop : Retry.Loop Http.Outcome) {outcome : Http.Outcome}
    {script : List Http.Outcome} {chat : Web.Url} (hlimit : 1 ≤ limit) (hrole : Request.checkRole r.role = .ok role)
    (hmodel : choice.resolve name r.options = .ok model) (hopen : s.isOpen = true)
    (hchat : s.base.append "chat/completions".toList = .ok chat)
    (hsendable :
      s.library.unsendable? (requestBody model (Request.transcript r.history role r.content) r.options) = none)
    (hsound : ∀ o ∈ outcome :: script, ∃ decided, s.Decides chat.text model o decided) :
    Retried Http.Outcome.Passes (s.Decides chat.text model) limit (Retry.outcomeAt outcome script)
      (HttpRequest.mk "POST" chat.text s.authorization
        (some (requestBody model (Request.transcript r.history role r.content) r.options)))
      (s.send loop choice limit r outcome script).requests (s.send loop choice limit r outcome script).result := by
  obtain ⟨decided, hdecided⟩ := hsound _ (loop.outcome_mem Http.Outcome.isTransient limit outcome script)
  rw [send_eq s loop choice limit r outcome script hrole hmodel (request_eq _ hopen hchat hsendable)]
  refine Retried.of_follows (loop.follows Http.Outcome.isTransient limit outcome script) _ hlimit
    Http.Outcome.isTransient_iff ?_ fun _ => Decides.fault_of_passes
  exact hdecided.readAnswer_eq.symm ▸ hdecided

end Send

theorem Client.snd_send (c : Client) (r : Request) : (c.send r).2 = c.answer r := by
  rw [send]
  cases c.answer r <;> rfl

theorem Client.choice_send (c : Client) (r : Request) : (c.send r).1.choice = c.choice := by
  rw [send]
  cases c.answer r <;> rfl

/-- **Retried requests.** A request to a service and one to a server are made again alike, and none of them changes the
model that is selected. A request to a server is one that can be written down. -/
theorem Client.send_retried (c : Client) {r : Request} {role : Role} {model : WideString}
    (hrole : Request.checkRole r.role = .ok role) (hmodel : c.choice.resolve c.name r.options = .ok model) :
    (∀ s loop limit outcome script, c.backend = .service s loop limit outcome script → 1 ≤ limit →
      (∀ o ∈ outcome :: script, ∃ decided, s.Decides o decided) →
      Retried ServiceOutcome.Passes s.Decides limit (Retry.outcomeAt outcome script)
        (ServiceCall.create (s.requestFields model (Request.transcript r.history role r.content) r.options))
        (s.send loop c.choice limit r outcome script).calls (c.send r).2) ∧
    (∀ s loop limit outcome script chat, c.backend = .server s loop limit outcome script → 1 ≤ limit →
      s.isOpen = true → s.base.append "chat/completions".toList = .ok chat →
      s.library.unsendable? (LocalServer.requestBody model (Request.transcript r.history role r.content) r.options) = none →
      (∀ o ∈ outcome :: script, ∃ decided, s.Decides chat.text model o decided) →
      Retried Http.Outcome.Passes (s.Decides chat.text model) limit (Retry.outcomeAt outcome script)
        (HttpRequest.mk "POST" chat.text s.authorization
          (some (LocalServer.requestBody model (Request.transcript r.history role r.content) r.options)))
        (s.send loop c.choice limit r outcome script).requests (c.send r).2) ∧
    (c.send r).1.choice = c.choice := by
  refine ⟨fun s loop limit outcome script hbackend hlimit hsound => ?_,
    fun s loop limit outcome script chat hbackend hlimit hopen hchat hsendable hsound => ?_, c.choice_send r⟩
  · rw [name, hbackend] at hmodel
    rw [snd_send, answer, hbackend]
    exact s.retried_send loop hlimit hrole hmodel hsound
  · rw [name, hbackend] at hmodel
    rw [snd_send, answer, hbackend]
    exact s.retried_send loop hlimit hrole hmodel hopen hchat hsendable hsound

/-- A service that replies to the third call. -/
def Client.ofService : Client :=
  .new (some "m")
    (.service .anthropic Retry.loop 3 (.fault .timeout "") [.fault .rateLimit "busy", .response (.obj [])])

/-- A server that nobody reaches. -/
def Client.ofServer : Client := .new (some "m") (.server .standard Retry.loop 2 (.unreachable "away") [])

theorem Client.send_retried_alike :
    Retried ServiceOutcome.Passes Service.anthropic.Decides 3
        (Retry.outcomeAt (.fault .timeout "") [.fault .rateLimit "busy", .response (.obj [])])
        (ServiceCall.create (Service.anthropic.requestFields "m" [⟨.user, "hi"⟩] .standard))
        (Service.anthropic.send Retry.loop ofService.choice 3 LocalServer.greeting (.fault .timeout "")
          [.fault .rateLimit "busy", .response (.obj [])]).calls
        (ofService.send LocalServer.greeting).2 ∧
      Retried Http.Outcome.Passes (LocalServer.standard.Decides "http://localhost:8000/v1/chat/completions" "m") 2
        (Retry.outcomeAt (.unreachable "away") [])
        (HttpRequest.mk "POST" "http://localhost:8000/v1/chat/completions" "Bearer not-needed"
          (some (LocalServer.requestBody "m" [⟨.user, "hi"⟩] .standard)))
        (LocalServer.standard.send Retry.loop ofServer.choice 2 LocalServer.greeting (.unreachable "away") []).requests
        (ofServer.send LocalServer.greeting).2 := by
  have hrole : Request.checkRole LocalServer.greeting.role = .ok .user := rfl
  have hservice : ofService.choice.resolve ofService.name LocalServer.greeting.options = .ok ("m" : WideString) := rfl
  have hserver : ofServer.choice.resolve ofServer.name LocalServer.greeting.options = .ok ("m" : WideString) := rfl
  have htext : (LocalServer.standardUrl "chat/completions").text = "http://localhost:8000/v1/chat/completions" := by rfl
  have hkey : LocalServer.standard.authorization = "Bearer not-needed" := by decide +kernel
  constructor
  · refine (Client.send_retried ofService hrole hservice).1 .anthropic Retry.loop 3 _ _ rfl (by decide) fun o ho => ?_
    simp only [List.mem_cons, List.not_mem_nil, or_false] at ho
    obtain rfl | rfl | rfl := ho
    · exact ⟨_, .fault "" (by decide)⟩
    · exact ⟨_, .fault "busy" (by decide)⟩
    · exact ⟨_, .reply rfl⟩
  · rw [← htext, ← hkey]
    refine (Client.send_retried ofServer hrole hserver).2.1 .standard Retry.loop 2 _ _
      (LocalServer.standardUrl "chat/completions") rfl (by decide) rfl LocalServer.append_chat rfl fun o ho => ?_
    obtain rfl := List.mem_singleton.1 ho
    exact ⟨_, .refused (.unreachable "away")⟩

end Playbook
