import Playbook.Model.Body
import Playbook.Proofs.Model.Bodies
/-!
# Answers of a local server

What a request and a selection come to with any answer at all. The faults of a call are caught before its body is read,
so that a body of another shape than expected shows as something that nobody expects from a model.
-/

namespace Playbook.LocalServer

open Json (Fields)

variable {s : LocalServer} {data : Json} {model : WideString} {url : String} {outcome : Http.Outcome}

/-! ### Requests -/

/-- What the last call of a request was answered with. -/
def lastAnswer (loop : Retry.Loop Http.Outcome) (limit : Nat) (outcome : Http.Outcome) (script : List Http.Outcome) :
    Http.Outcome :=
  (loop.run Http.Outcome.isTransient limit outcome script).outcome

/-- A response is the last answer, whatever could come after it. -/
theorem lastAnswer_response (loop : Retry.Loop Http.Outcome) (limit status : Nat) (body : Text.Bytes)
    (script : List Http.Outcome) : lastAnswer loop limit (.response status body) script = .response status body :=
  loop.outcome_of_lasting rfl limit script

/-- What the answer to the last call decides. -/
inductive Decides (s : LocalServer) (url : String) (model : WideString) : Http.Outcome → Except Failure Reply → Prop
  | refused {outcome : Http.Outcome} {text : WideString} (h : Refuses s url outcome text) :
      Decides s url model outcome (.error (.model (.requestFailed text)))
  | answered {outcome : Http.Outcome} {data : Json} {result : Except Failure Reply} (hdata : Brings s url outcome data)
      (htells : Tells model data result) : Decides s url model outcome result

theorem Decides.reported {result : Except Failure Reply} (h : Decides s url model outcome result) : Reported result := by
  cases h with
  | refused _ => exact .fault _
  | answered _ htells => exact htells.reported

/-- What a request comes to with the answer to its last call. -/
def readAnswer (s : LocalServer) (url : String) (model : WideString) (outcome : Http.Outcome) : Except Failure Reply :=
  s.fetch .requestFailed url outcome >>= readReply model

theorem Decides.readAnswer_eq {result : Except Failure Reply} (h : Decides s url model outcome result) :
    s.readAnswer url model outcome = result := by
  cases h with
  | refused h => rw [readAnswer, h.fetch_eq]; rfl
  | answered hdata htells => rw [readAnswer, hdata.fetch_eq]; exact htells.readReply_eq

theorem decides_or_leaked (s : LocalServer) (url : String) (model : WideString) (outcome : Http.Outcome) :
    Decides s url model outcome (s.readAnswer url model outcome) ∨ Leaked (s.readAnswer url model outcome) := by
  obtain ⟨data, hdata⟩ | ⟨text, htext⟩ | ⟨kind, text, hfetch⟩ := s.brings_or_refuses .requestFailed url outcome
  · rw [readAnswer, hdata.fetch_eq]
    exact (readReply_tells_or_leaked model data).imp_left (.answered hdata)
  · rw [readAnswer, htext.fetch_eq]
    exact .inl (.refused htext)
  · rw [readAnswer, hfetch]
    exact .inr (.host kind text)

theorem send_eq (s : LocalServer) (loop : Retry.Loop Http.Outcome) (choice : ModelChoice) (limit : Nat) (r : Request)
    (outcome : Http.Outcome) (script : List Http.Outcome) {role : Role} {request : HttpRequest}
    (hrole : Request.checkRole r.role = .ok role) (hmodel : choice.resolve name r.options = .ok model)
    (hrequest : s.request "POST" "chat/completions"
      (some (requestBody model (Request.transcript r.history role r.content) r.options)) = .ok request) :
    s.send loop choice limit r outcome script =
      ⟨List.replicate (loop.run Http.Outcome.isTransient limit outcome script).calls request,
        (loop.run Http.Outcome.isTransient limit outcome script).pauses,
        s.readAnswer request.url model (lastAnswer loop limit outcome script)⟩ := by
  rw [send, hrole]
  dsimp only [bind, Except.bind]
  rw [hmodel]
  dsimp only
  rw [hrequest, readAnswer, fetch, bind_assoc]
  rfl

/-- A request whose body cannot be written down is not made. -/
theorem send_unsendable (s : LocalServer) (loop : Retry.Loop Http.Outcome) (choice : ModelChoice) (limit : Nat)
    (r : Request) (outcome : Http.Outcome) (script : List Http.Outcome) {role : Role} {e : Failure}
    (hrole : Request.checkRole r.role = .ok role) (hmodel : choice.resolve name r.options = .ok model)
    (hrequest : s.request "POST" "chat/completions"
      (some (requestBody model (Request.transcript r.history role r.content) r.options)) = .error e) :
    s.send loop choice limit r outcome script = ⟨[], [], .error e⟩ := by
  rw [send, hrole]
  dsimp only [bind, Except.bind]
  rw [hmodel]
  dsimp only
  rw [hrequest]

/-! ### Selections -/

/-- A list with these entries in an answer. -/
inductive Offers (s : LocalServer) (url : String) : Http.Outcome → List Fields → Prop
  | list {outcome : Http.Outcome} {data : Json} {entries : List Fields} (hdata : Brings s url outcome data)
      (hentries : Lists data entries) : Offers s url outcome entries

def id? (entry : Fields) : Option Json := entry.lookup ("id" : WideString)

/-- What a selection is expected to come to: a model that is listed is selected, or there is a fault of the selection. -/
inductive Kept (s : LocalServer) (choice : ModelChoice) (url : String) (model : WideString) (outcome : Http.Outcome) :
    Except Failure ModelChoice → Prop
  | listed {entries : List Fields} {entry : Fields} (h : Offers s url outcome entries)
      (hentry : entry ∈ entries) (hid : id? entry = some (.str model)) :
      Kept s choice url model outcome (.ok (choice.select model))
  | fault (fault : SelectionFault) : Kept s choice url model outcome (.error (.selection fault))

/-- What the answer to a selection decides: a model that is listed is selected, and no other one. -/
inductive Settles (s : LocalServer) (choice : ModelChoice) (url : String) (model : WideString) :
    Http.Outcome → Except Failure ModelChoice → Prop
  | refused {outcome : Http.Outcome} {text : WideString} (h : Refuses s url outcome text) :
      Settles s choice url model outcome (.error (.selection (.failed model (ModelFault.listFailed text).message)))
  | listed {outcome : Http.Outcome} {entries : List Fields} {entry : Fields}
      (h : Offers s url outcome entries) (hentry : entry ∈ entries) (hid : id? entry = some (.str model)) :
      Settles s choice url model outcome (.ok (choice.select model))
  | unlisted {outcome : Http.Outcome} {entries : List Fields} (h : Offers s url outcome entries)
      (hid : Json.str model ∉ ids entries) :
      Settles s choice url model outcome (.error (.selection (.unserved model s.address)))

/-- What else a selection comes to. An entry without an id passes for one with an empty id. -/
inductive Slips (s : LocalServer) (choice : ModelChoice) (url : String) (model : WideString) :
    Http.Outcome → Except Failure ModelChoice → Prop
  | host (outcome : Http.Outcome) (fault : HostFault) (text : WideString) :
      Slips s choice url model outcome (.error (.host fault text))
  | nameless {outcome : Http.Outcome} {entries : List Fields} {entry : Fields}
      (h : Offers s url outcome entries) (hname : model = []) (hentry : entry ∈ entries) (hid : id? entry = none)
      (hnone : ∀ entry ∈ entries, id? entry ≠ some (.str model)) :
      Slips s choice url model outcome (.ok (choice.select model))

theorem given_id_iff {entry : Fields} : given entry "id" (.str "") = .str model ↔
    id? entry = some (.str model) ∨ model = [] ∧ id? entry = none := by
  change (id? entry).getD _ = _ ↔ _
  cases id? entry with
  | none => simp [WideString.ofString, eq_comm]
  | some v => simp

theorem list_eq (s : LocalServer) (outcome : Http.Outcome) {request : HttpRequest}
    (hrequest : s.request "GET" "models" none = .ok request) :
    s.list outcome = ⟨[request], [], s.fetch .listFailed request.url outcome >>= listEntries⟩ := by
  rw [list, hrequest]
  dsimp only
  rw [fetch, bind_assoc]
  rfl

section Select

variable {choice : ModelChoice} {listed : List Json}

theorem select_of_fault {fault : ModelFault} (h : (s.list outcome).result = .error (.model fault)) :
    (s.select choice model outcome).result = .error (.selection (.failed model fault.message)) := by
  rw [select]
  dsimp only
  rw [h]

theorem select_of_host {fault : HostFault} {text : WideString} (h : (s.list outcome).result = .error (.host fault text)) :
    (s.select choice model outcome).result = .error (.host fault text) := by
  rw [select]
  dsimp only
  rw [h]

theorem select_of_mem (h : (s.list outcome).result = .ok listed) (hmem : Json.str model ∈ listed) :
    (s.select choice model outcome).result = .ok (choice.select model) := by
  rw [select]
  dsimp only
  rw [h]
  exact if_pos (List.any_eq_true.2 ⟨Json.str model, hmem, decide_eq_true rfl⟩)

theorem select_of_not_mem (h : (s.list outcome).result = .ok listed) (hmem : Json.str model ∉ listed) :
    (s.select choice model outcome).result = .error (.selection (.unserved model s.address)) := by
  rw [select]
  dsimp only
  rw [h]
  refine if_neg fun hany => ?_
  obtain ⟨v, hv, his⟩ := List.any_eq_true.1 hany
  cases v with
  | str id => exact hmem (of_decide_eq_true his ▸ hv)
  | _ => exact absurd his Bool.false_ne_true

end Select

theorem Offers.list_eq {entries : List Fields} {request : HttpRequest}
    (hrequest : s.request "GET" "models" none = .ok request) (h : Offers s request.url outcome entries) :
    (s.list outcome).result = .ok (ids entries) := by
  obtain ⟨hdata, hentries⟩ := h
  rw [LocalServer.list_eq s outcome hrequest, hdata.fetch_eq]
  exact hentries.listEntries_eq

theorem Settles.select_eq {choice : ModelChoice} {request : HttpRequest}
    {result : Except Failure ModelChoice} (hrequest : s.request "GET" "models" none = .ok request)
    (h : Settles s choice request.url model outcome result) : (s.select choice model outcome).result = result := by
  cases h with
  | @refused text h =>
      have hlist : (s.list outcome).result = .error (.model (.listFailed text)) := by
        rw [list_eq s outcome hrequest, h.fetch_eq]
        rfl
      exact select_of_fault hlist
  | listed h hentry hid =>
      refine select_of_mem (h.list_eq hrequest) (List.mem_map.2 ⟨_, hentry, ?_⟩)
      exact given_id_iff.2 (.inl hid)
  | unlisted h hid => exact select_of_not_mem (h.list_eq hrequest) hid

theorem settles_or_slips (choice : ModelChoice) (model : WideString) (outcome : Http.Outcome)
    {request : HttpRequest} (hrequest : s.request "GET" "models" none = .ok request) :
    Settles s choice request.url model outcome (s.select choice model outcome).result ∨
      Slips s choice request.url model outcome (s.select choice model outcome).result := by
  obtain ⟨data, hdata⟩ | ⟨text, htext⟩ | ⟨kind, text, hfetch⟩ := s.brings_or_refuses .listFailed request.url outcome
  · obtain ⟨entries, hentries⟩ | ⟨kind, text, hfails⟩ := lists_or_fails data
    · have hoffers : Offers s request.url outcome entries := .list hdata hentries
      by_cases hmem : Json.str model ∈ ids entries
      · rw [select_of_mem (hoffers.list_eq hrequest) hmem]
        by_cases hid : ∃ entry ∈ entries, id? entry = some (.str model)
        · obtain ⟨entry, hentry, hid⟩ := hid
          exact .inl (.listed hoffers hentry hid)
        · obtain ⟨entry, hentry, hgiven⟩ := List.mem_map.1 hmem
          obtain hfound | ⟨hname, hnone⟩ := given_id_iff.1 hgiven
          · exact absurd ⟨entry, hentry, hfound⟩ hid
          · exact .inr (.nameless hoffers hname hentry hnone fun entry hentry hfound => hid ⟨entry, hentry, hfound⟩)
      · rw [select_of_not_mem (hoffers.list_eq hrequest) hmem]
        exact .inl (.unlisted hoffers hmem)
    · have hlist : (s.list outcome).result = .error (.host kind text) := by
        rw [list_eq s outcome hrequest, hdata.fetch_eq]
        exact hfails
      rw [select_of_host hlist]
      exact .inr (.host outcome kind text)
  · have hsettles : Settles s choice request.url model outcome _ := .refused htext
    rw [hsettles.select_eq hrequest]
    exact .inl hsettles
  · have hlist : (s.list outcome).result = .error (.host kind text) := by
      rw [list_eq s outcome hrequest, hfetch]
      rfl
    rw [select_of_host hlist]
    exact .inr (.host outcome kind text)

theorem Offers.unique {entries entries' : List Fields} (h : Offers s url outcome entries)
    (h' : Offers s url outcome entries') : entries = entries' := by
  obtain ⟨hdata, hentries⟩ := h
  obtain ⟨hdata', hentries'⟩ := h'
  have hfetch : s.fetch .listFailed url outcome = .ok _ := hdata.fetch_eq
  obtain rfl := Except.ok.inj (hfetch.symm.trans hdata'.fetch_eq)
  cases hentries with
  | entries hentries =>
      cases hentries' with
      | entries hentries' =>
          have hmap := Json.arr.inj (hentries.symm.trans hentries')
          exact (List.map_inj_right fun _ _ => Json.obj.inj).1 hmap
      | empty hempty => rw [hentries] at hempty; simp at hempty
  | empty hempty =>
      cases hentries' with
      | entries hentries' => rw [hentries'] at hempty; simp at hempty
      | empty _ => rfl

theorem Settles.kept {choice : ModelChoice} {result : Except Failure ModelChoice}
    (h : Settles s choice url model outcome result) : Kept s choice url model outcome result := by
  cases h with
  | refused _ => exact .fault _
  | listed h hentry hid => exact .listed h hentry hid
  | unlisted _ _ => exact .fault _

theorem Slips.not_kept {choice : ModelChoice} {result : Except Failure ModelChoice}
    (h : Slips s choice url model outcome result) : ¬ Kept s choice url model outcome result := by
  intro hkept
  cases h with
  | host => cases hkept
  | nameless h hname hentry hid hnone =>
      cases hkept with
      | listed h' hentry' hid' => exact hnone _ (h.unique h' ▸ hentry') hid'

/-! ### All answers -/

theorem request_eq {path : String} {target : Web.Url} (method : String) {body : Option Json}
    (hopen : s.isOpen = true) (htarget : s.base.append path.toList = .ok target)
    (hsendable : body.bind s.library.unsendable? = none) :
    s.request method path body = .ok ⟨method, target.text, s.authorization, body⟩ := by
  rw [request, htarget]
  simp only [hopen, hsendable]
  rfl

theorem request_unsendable {path : String} {target : Web.Url} (method : String) {body : Json} {e : Http.Foreign}
    (htarget : s.base.append path.toList = .ok target) (h : s.library.unsendable? body = some e) :
    s.request method path (some body) = .error e.failure := by
  rw [request, htarget]
  simp only [Option.bind_some, h]
  rfl

theorem checkRole_error {role : WideString} {e : Failure} (h : Request.checkRole role = .error e) :
    ∃ fault, e = .model fault := by
  unfold Request.checkRole at h
  split at h
  all_goals cases h
  · exact ⟨_, rfl⟩
  · exact ⟨_, rfl⟩

theorem resolve_error {choice : ModelChoice} {client : String} {options : RequestOptions} {e : Failure}
    (h : choice.resolve client options = .error e) : ∃ fault, e = .model fault := by
  unfold ModelChoice.resolve at h
  split at h
  · split at h
    all_goals cases h
    exact ⟨_, rfl⟩
  · cases h
    exact ⟨_, rfl⟩

/-- A request that is not made for want of a role or a model is a fault of the model too. -/
theorem reported_of_unmade (s : LocalServer) (loop : Retry.Loop Http.Outcome) {choice : ModelChoice} (limit : Nat)
    {r : Request} (outcome : Http.Outcome) (script : List Http.Outcome)
    (h : ∀ role model, Request.checkRole r.role = .ok role → choice.resolve name r.options ≠ .ok model) :
    Reported (s.send loop choice limit r outcome script).result := by
  unfold send
  cases hrole : Request.checkRole r.role with
  | error e =>
      obtain ⟨fault, rfl⟩ := checkRole_error hrole
      exact .fault fault
  | ok role =>
      cases hmodel : choice.resolve name r.options with
      | error e =>
          obtain ⟨fault, rfl⟩ := resolve_error hmodel
          exact .fault fault
      | ok model => exact absurd hmodel (h role model hrole)

/-- What comes of a request that a role and a model can be found for. -/
theorem send_reported {s : LocalServer} {choice : ModelChoice} {r : Request} {role : Role} {chat : Web.Url}
    (hopen : s.isOpen = true) (hchat : s.base.append "chat/completions".toList = .ok chat)
    (hrole : Request.checkRole r.role = .ok role) (hmodel : choice.resolve name r.options = .ok model)
    (loop : Retry.Loop Http.Outcome) (limit : Nat) (outcome : Http.Outcome) (script : List Http.Outcome) :
    let last := lastAnswer loop limit outcome script
    let result := (s.send loop choice limit r outcome script).result
    let unsendable :=
      s.library.unsendable? (requestBody model (Request.transcript r.history role r.content) r.options)
    (Reported result ↔ unsendable = none ∧ ∃ decided, Decides s chat.text model last decided) ∧
      (∀ decided, unsendable = none → Decides s chat.text model last decided → result = decided) ∧
      (∀ e, unsendable = some e → result = .error e.failure) ∧ (¬ Reported result → Leaked result) := by
  dsimp only
  cases hbody : s.library.unsendable? (requestBody model (Request.transcript r.history role r.content) r.options) with
  | some e =>
      rw [send_unsendable s loop choice limit r outcome script hrole hmodel (request_unsendable _ hchat hbody)]
      have hleaked : Leaked (.error e.failure) := .host e.fault e.text
      refine ⟨⟨fun h => absurd h hleaked.not_reported, fun h => nomatch h.1⟩, fun _ h => (nomatch h), ?_,
        fun _ => hleaked⟩
      rintro e ⟨⟩
      rfl
  | none =>
      rw [send_eq s loop choice limit r outcome script hrole hmodel (request_eq _ hopen hchat hbody)]
      have hcases := s.decides_or_leaked chat.text model (lastAnswer loop limit outcome script)
      have hdecided : ∀ decided, Decides s chat.text model (lastAnswer loop limit outcome script) decided →
          s.readAnswer chat.text model (lastAnswer loop limit outcome script) = decided := fun _ h => h.readAnswer_eq
      refine ⟨⟨fun hreported => ⟨rfl, ?_⟩, fun ⟨_, decided, h⟩ => hdecided decided h ▸ h.reported⟩,
        fun decided _ => hdecided decided, fun _ h => (nomatch h), fun hnot => ?_⟩
      · exact hcases.elim (fun h => ⟨_, h⟩) fun hleaked => absurd hreported hleaked.not_reported
      · exact hcases.resolve_left fun h => hnot h.reported

theorem select_kept {s : LocalServer} {models : Web.Url} (hopen : s.isOpen = true)
    (hmodels : s.base.append "models".toList = .ok models) (choice : ModelChoice) (model : WideString)
    (outcome : Http.Outcome) :
    let result := (s.select choice model outcome).result
    (Kept s choice models.text model outcome result ↔ ∃ settled, Settles s choice models.text model outcome settled) ∧
      (∀ settled, Settles s choice models.text model outcome settled → result = settled) ∧
      (¬ Kept s choice models.text model outcome result → Slips s choice models.text model outcome result) := by
  have hrequest : s.request "GET" "models" none = .ok _ := request_eq "GET" hopen hmodels rfl
  have hcases := settles_or_slips choice model outcome hrequest
  have hsettled : ∀ settled, Settles s choice models.text model outcome settled →
      (s.select choice model outcome).result = settled := fun _ h => h.select_eq hrequest
  refine ⟨⟨fun hkept => ?_, fun ⟨settled, h⟩ => hsettled settled h ▸ h.kept⟩, hsettled, fun hnot => ?_⟩
  · exact hcases.elim (fun h => ⟨_, h⟩) fun hslips => absurd hkept hslips.not_kept
  · exact hcases.resolve_left fun h => hnot h.kept

/-- **Answers of a server.** A request comes to a reply that is a text or to a fault of the model exactly if its body can
be written down and its last answer is one that decides, and then to what this answer decides; otherwise it leaks. A
selection likewise. -/
theorem answers_reported (s : LocalServer) (choice : ModelChoice) {chat models : Web.Url} (hopen : s.isOpen = true)
    (hchat : s.base.append "chat/completions".toList = .ok chat) (hmodels : s.base.append "models".toList = .ok models) :
    (∀ loop limit r outcome script,
      let last := lastAnswer loop limit outcome script
      let result := (s.send loop choice limit r outcome script).result
      (∀ role model, Request.checkRole r.role = .ok role → choice.resolve name r.options = .ok model →
        let unsendable :=
          s.library.unsendable? (requestBody model (Request.transcript r.history role r.content) r.options)
        (Reported result ↔ unsendable = none ∧ ∃ decided, Decides s chat.text model last decided) ∧
        (∀ decided, unsendable = none → Decides s chat.text model last decided → result = decided) ∧
        (∀ e, unsendable = some e → result = .error e.failure) ∧ (¬ Reported result → Leaked result)) ∧
      ((∀ role model, Request.checkRole r.role = .ok role → choice.resolve name r.options ≠ .ok model) →
        Reported result)) ∧
    ∀ model outcome,
      let result := (s.select choice model outcome).result
      (Kept s choice models.text model outcome result ↔ ∃ settled, Settles s choice models.text model outcome settled) ∧
      (∀ settled, Settles s choice models.text model outcome settled → result = settled) ∧
      (¬ Kept s choice models.text model outcome result → Slips s choice models.text model outcome result) := by
  refine ⟨fun loop limit r outcome script => ⟨?_, s.reported_of_unmade loop limit outcome script⟩, ?_⟩
  · intro role model hrole hmodel
    exact send_reported hopen hchat hrole hmodel loop limit outcome script
  · intro model outcome
    exact select_kept hopen hmodels choice model outcome

/-! ### One server -/

/-- A library that writes every body down and reads JSON up to some depth, in which only the status tells what is wrong. -/
def plainLibrary : Http.Library := ⟨fun _ => none, Body.read 1000, fun status _ => s!"status {status}"⟩

/-- The server that is there where no other one is named. -/
def standard : LocalServer :=
  ⟨defaultUrl, ⟨"http".toList, [], "localhost".toList, some 8000, "/v1/".toList, none, none⟩, defaultKey,
    true, plainLibrary⟩

theorem new_standard : LocalServer.new plainLibrary defaultUrl defaultKey = .ok standard := by
  rfl

/-- What stands below the address of this server. -/
def standardUrl (path : String) : Web.Url := { standard.base with path := standard.base.path ++ path.toList }

theorem append_chat : standard.base.append "chat/completions".toList = .ok (standardUrl "chat/completions") := by
  rfl

theorem append_models : standard.base.append "models".toList = .ok (standardUrl "models") := by
  rfl

/-- A request without a conversation before it. -/
def greeting : Request := ⟨"user", "hi", [], .standard⟩

def ofText (s : String) : Http.Outcome := .response 200 (Text.encodeUtf8 s.toList)

/-- An answer without choices. -/
theorem answers_reported_noChoices :
    (standard.send Retry.loop (.new (some "m")) 3 greeting (ofText "\x7b\x7d") []).result =
      .error (.model .noChoices) := by
  have hread : Body.read 1000 (Text.encodeUtf8 "\x7b\x7d".toList) = .ok (.obj []) := by rfl
  have hsent := (answers_reported standard (.new (some "m")) rfl append_chat append_models).1 Retry.loop 3 greeting
    (ofText "\x7b\x7d") []
  refine (hsent.1 .user "m" rfl rfl).2.1 _ rfl ?_
  rw [ofText, lastAnswer_response]
  exact .answered (.body rfl rfl hread) (.nothing rfl)

/-- A text that is no JSON leaks from a request and from a selection. -/
theorem not_reported_of_text : LocalServer.new plainLibrary defaultUrl defaultKey = .ok standard ∧
    (¬ ∀ outcome, Reported (standard.send Retry.loop (.new (some "m")) 3 greeting outcome []).result) ∧
      ¬ ∀ outcome, Kept standard (.new (some "m")) "http://localhost:8000/v1/models" "m" outcome
        (standard.select (.new (some "m")) "m" outcome).result := by
  have hdecode : Body.decode (Text.encodeUtf8 "not json".toList) = .ok ("not json" : WideString) := by rfl
  have hparse : Json.read 1000 ("not json" : WideString) = .error (.unexpected "Expecting value" "not json") := by rfl
  have hread := Body.read_of_fault hdecode hparse
  have hfetch (fault : WideString → ModelFault) {url : String} (htaken : checkAnswered url = .ok ()) :
      standard.fetch fault url (ofText "not json") = .error (.host _ _) := fetch_unreadable htaken rfl hread
  have hrole : Request.checkRole "user" = .ok .user := rfl
  have hmodel : ModelChoice.resolve (.new (some "m")) name .standard = .ok ("m" : WideString) := rfl
  refine ⟨new_standard, ?_, ?_⟩
  · intro h
    have hsent := h (ofText "not json")
    have hrequest : standard.request "POST" "chat/completions"
        (some (requestBody "m" (Request.transcript greeting.history .user greeting.content) greeting.options)) = .ok _ :=
      request_eq _ rfl append_chat rfl
    rw [send_eq _ _ _ _ _ _ _ hrole hmodel hrequest, ofText, lastAnswer_response, ← ofText, readAnswer,
      hfetch .requestFailed rfl] at hsent
    exact (Leaked.host _ _).not_reported hsent
  · intro h
    have hselected := h (ofText "not json")
    rw [select, list_eq _ _ (request_eq _ rfl append_models rfl), hfetch .listFailed rfl] at hselected
    cases hselected

end Playbook.LocalServer
