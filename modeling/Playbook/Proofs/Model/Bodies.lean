import Playbook.Model.LocalServer
/-!
# Bodies of a local server

What a body has to look like so that a reply or a list of models can be taken out of it. One of another shape ends in an
error of the host, or gives a reply that is no text.
-/

namespace Playbook.LocalServer

open Json (Fields)

variable {data : Json} {fields : Fields} {model : WideString} {url : String}

/-- The value of a field, or the one that stands for a field that is absent. -/
def given (fields : Fields) (name : WideString) (absent : Json) : Json := (fields.lookup name).getD absent

/-- Another value in the place of an empty one. -/
def orElse (v other : Json) : Json := if v.isTruthy then v else other

theorem get_obj (fields : Fields) (name : WideString) (absent : Json) :
    get (.obj fields) name absent = .ok (given fields name absent) := rfl

/-- Only objects have fields. -/
theorem obj_or_noField (v : Json) :
    (∃ fields, v = .obj fields) ∨ ∃ text, ∀ name absent, get v name absent = .error (.host .attribute text) := by
  cases v with
  | obj fields => exact .inl ⟨fields, rfl⟩
  | _ => exact .inr ⟨_, fun _ _ => rfl⟩

/-! ### Replies -/

/-- The data of a chat, and what a request comes to with it. -/
inductive Tells (model : WideString) : Json → Except Failure Reply → Prop
  | nothing {fields : Fields} (hchoices : (given fields "choices" .null).isTruthy = false) :
      Tells model (.obj fields) (.error (.model .noChoices))
  | text {fields choice message usage : Fields} {rest : List Json} {text : WideString}
      (hchoices : given fields "choices" .null = .arr (.obj choice :: rest))
      (hmessage : given choice "message" (.obj []) = .obj message)
      (htext : orElse (given message "content" .null) (.str "") = .str text)
      (husage : orElse (given fields "usage" .null) (.obj []) = .obj usage) :
      Tells model (.obj fields) (.ok ⟨.str text, given fields "model" (.str model),
        Service.usageOf (given usage "prompt_tokens" (.int 0)) (given usage "completion_tokens" (.int 0))
          (given usage "total_tokens" (.int 0))⟩)

/-- What a request is expected to come to: a reply that is a text, or a fault of the model. -/
inductive Reported : Except Failure Reply → Prop
  | reply (text : WideString) (model : Json) (usage : Fields) : Reported (.ok ⟨.str text, model, usage⟩)
  | fault (fault : ModelFault) : Reported (.error (.model fault))

/-- What nobody expects: an error of the host, or a reply that is no text. -/
inductive Leaked : Except Failure Reply → Prop
  | host (fault : HostFault) (text : WideString) : Leaked (.error (.host fault text))
  | notText {reply : Reply} (h : ∀ text, reply.text ≠ .str text) : Leaked (.ok reply)

theorem Leaked.not_reported {result : Except Failure Reply} (h : Leaked result) : ¬ Reported result := by
  rintro (⟨text, model, usage⟩ | ⟨fault⟩)
  · cases h with
    | notText h => exact h text rfl
  · cases h

theorem Tells.reported {result : Except Failure Reply} (h : Tells model data result) : Reported result := by
  cases h with
  | nothing _ => exact .fault _
  | text _ _ _ _ => exact .reply _ _ _

theorem readReply_noChoices (model : WideString) (h : (given fields "choices" .null).isTruthy = false) :
    readReply model (.obj fields) = .error (.model .noChoices) := by
  rw [readReply, get_obj]
  simp only [bind, Except.bind, h, Bool.not_false, if_true]
  rfl

/-- The reply in a choice, where the other fields are those of the whole answer. -/
def readChoice (model : WideString) (fields : Fields) (choice : Json) : Except Failure Reply := do
  let content ← get (← get choice "message" (.obj [])) "content" .null
  let usage := orElse (given fields "usage" .null) (.obj [])
  return ⟨orElse content (.str ""), given fields "model" (.str model),
    Service.usageOf (← get usage "prompt_tokens" (.int 0)) (← get usage "completion_tokens" (.int 0))
      (← get usage "total_tokens" (.int 0))⟩

theorem readReply_choices (model : WideString) (h : (given fields "choices" .null).isTruthy = true) :
    readReply model (.obj fields) = first (given fields "choices" .null) >>= readChoice model fields := by
  rw [readReply, get_obj]
  simp only [bind, Except.bind, h, Bool.not_true, get_obj]
  rfl

theorem Tells.readReply_eq {result : Except Failure Reply} (h : Tells model data result) : readReply model data = result := by
  cases h with
  | nothing hchoices => exact readReply_noChoices model hchoices
  | text hchoices hmessage htext husage =>
      rw [readReply_choices model (by rw [hchoices]; rfl), hchoices]
      simp only [first, readChoice, husage, bind, Except.bind, get_obj, hmessage, htext]
      rfl

theorem first_cases (v : Json) :
    (∃ choice rest, v = .arr (choice :: rest) ∧ first v = .ok choice) ∨ (∃ text, first v = .ok (.str text)) ∨
      ∃ fault text, first v = .error (.host fault text) := by
  cases v with
  | arr items =>
      cases items with
      | nil => exact .inr (.inr ⟨_, _, rfl⟩)
      | cons choice rest => exact .inl ⟨choice, rest, rfl, rfl⟩
  | str s => exact .inr (.inl ⟨_, rfl⟩)
  | _ => exact .inr (.inr ⟨_, _, rfl⟩)

theorem readChoice_tells_or_leaked (model : WideString) {choice : Json} {rest : List Json}
    (hchoices : given fields "choices" .null = .arr (choice :: rest)) :
    Tells model (.obj fields) (readChoice model fields choice) ∨ Leaked (readChoice model fields choice) := by
  unfold readChoice
  obtain ⟨choice, rfl⟩ | ⟨text, hfield⟩ := obj_or_noField choice
  · obtain ⟨message, hmessage⟩ | ⟨text, hfield⟩ := obj_or_noField (given choice "message" (.obj []))
    · obtain ⟨usage, husage⟩ | ⟨text, hfield⟩ := obj_or_noField (orElse (given fields "usage" .null) (.obj []))
      · rw [get_obj, hmessage, husage]
        by_cases htext : ∃ text, orElse (given message "content" .null) (.str "") = .str text
        · obtain ⟨text, htext⟩ := htext
          have htells : Tells model (.obj fields) _ := .text hchoices hmessage htext husage
          rw [← htext] at htells
          exact .inl htells
        · exact .inr (.notText fun text h => htext ⟨text, h⟩)
      · rw [get_obj, hmessage]
        simp only [hfield]
        exact .inr (.host _ _)
    · rw [get_obj]
      simp only [bind, Except.bind, hfield]
      exact .inr (.host _ _)
  · rw [hfield]
    exact .inr (.host _ _)

/-- What is read is what the data says, or leaks. -/
theorem readReply_tells_or_leaked (model : WideString) (data : Json) :
    Tells model data (readReply model data) ∨ Leaked (readReply model data) := by
  obtain ⟨fields, rfl⟩ | ⟨text, hfield⟩ := obj_or_noField data
  · cases hchoices : (given fields "choices" .null).isTruthy with
    | false =>
        rw [readReply_noChoices model hchoices]
        exact .inl (.nothing hchoices)
    | true =>
        rw [readReply_choices model hchoices]
        obtain ⟨v, rest, hlist, hfirst⟩ | ⟨text, hfirst⟩ | ⟨fault, text, hfirst⟩ := first_cases (given fields "choices" .null)
        · rw [hfirst]
          exact readChoice_tells_or_leaked model hlist
        · rw [hfirst]
          exact .inr (.host _ _)
        · rw [hfirst]
          exact .inr (.host _ _)
  · rw [readReply, hfield]
    exact .inr (.host _ _)

/-! ### Lists -/

/-- The entries in the data of a list. -/
inductive Lists : Json → List Fields → Prop
  | entries {fields : Fields} {entries : List Fields}
      (h : given fields "data" (.arr []) = .arr (entries.map .obj)) : Lists (.obj fields) entries
  | empty {fields : Fields}
      (h : given fields "data" (.arr []) = .obj [] ∨ given fields "data" (.arr []) = .str "") : Lists (.obj fields) []

def listEntries (data : Json) : Except Failure (List Json) := do
  let entries ← iterate (← get data "data" (.arr []))
  entries.mapM fun entry => get entry "id" (.str "")

def ids (entries : List Fields) : List Json := entries.map fun entry => given entry "id" (.str "")

theorem mapM_get (entries : List Fields) :
    ((entries.map .obj).mapM fun entry => get entry "id" (.str "")) = .ok (ids entries) := by
  induction entries with
  | nil => rfl
  | cons entry entries ih =>
      rw [List.map_cons, List.mapM_cons, ih, get_obj]
      rfl

theorem mapM_get_cases (items : List Json) :
    (∃ entries : List Fields, items = entries.map .obj) ∨
      ∃ text, (items.mapM fun entry => get entry "id" (.str "")) = .error (.host .attribute text) := by
  induction items with
  | nil => exact .inl ⟨[], rfl⟩
  | cons item items ih =>
      rw [List.mapM_cons]
      obtain ⟨entry, rfl⟩ | ⟨text, hfield⟩ := obj_or_noField item
      · obtain ⟨entries, rfl⟩ | ⟨text, hitems⟩ := ih
        · exact .inl ⟨entry :: entries, rfl⟩
        · refine .inr ⟨text, ?_⟩
          rw [hitems, get_obj]
          rfl
      · refine .inr ⟨text, ?_⟩
        rw [hfield]
        rfl

theorem Lists.listEntries_eq {entries : List Fields} (h : Lists data entries) :
    listEntries data = .ok (ids entries) := by
  cases h with
  | entries h =>
      rw [listEntries, get_obj, h]
      exact mapM_get entries
  | empty h =>
      rw [listEntries, get_obj]
      obtain h | h := h
      · rw [h]
        rfl
      · rw [h]
        rfl

theorem lists_or_fails (data : Json) :
    (∃ entries, Lists data entries) ∨ ∃ kind text, listEntries data = .error (.host kind text) := by
  unfold listEntries
  obtain ⟨fields, rfl⟩ | ⟨text, hfield⟩ := obj_or_noField data
  · rw [get_obj]
    cases hdata : given fields "data" (.arr []) with
    | arr items =>
        obtain ⟨entries, rfl⟩ | ⟨text, hitems⟩ := mapM_get_cases items
        · exact .inl ⟨entries, .entries hdata⟩
        · exact .inr ⟨_, _, hitems⟩
    | obj named =>
        cases named with
        | nil => exact .inl ⟨[], .empty (.inl hdata)⟩
        | cons named rest => exact .inr ⟨_, _, rfl⟩
    | str s =>
        cases s with
        | nil => exact .inl ⟨[], .empty (.inr hdata)⟩
        | cons p s => exact .inr ⟨_, _, rfl⟩
    | _ => exact .inr ⟨_, _, rfl⟩
  · rw [hfield]
    exact .inr ⟨_, _, rfl⟩

/-! ### Bodies -/

/-- A success with data in its body. -/
inductive Brings (s : LocalServer) (url : String) : Http.Outcome → Json → Prop
  | body {status : Nat} {body : Text.Bytes} {data : Json} (htaken : checkAnswered url = .ok ())
      (hsuccess : Http.isSuccess status = true) (hread : s.library.read body = .ok data) :
      Brings s url (.response status body) data

/-- No answer, or one with a status that is no success. -/
inductive Refuses (s : LocalServer) (url : String) : Http.Outcome → WideString → Prop
  | unreachable (text : WideString) : Refuses s url (.unreachable text) text
  | status {status : Nat} (body : Text.Bytes) (htaken : checkAnswered url = .ok ())
      (hstatus : Http.isSuccess status = false) : Refuses s url (.response status body) (s.library.statusText status url)

/-- The data of an answer; `fault` is what a refusal comes to. -/
def fetch (s : LocalServer) (fault : WideString → ModelFault) (url : String) (outcome : Http.Outcome) :
    Except Failure Json :=
  s.successful fault url outcome >>= s.readBody

variable {s : LocalServer} {outcome : Http.Outcome} {fault : WideString → ModelFault}

theorem Brings.fetch_eq (h : Brings s url outcome data) : s.fetch fault url outcome = .ok data := by
  cases h with
  | body htaken hsuccess hread =>
      simp only [fetch, successful, htaken, hsuccess, bind, Except.bind, pure, Except.pure, if_true]
      rw [readBody, hread]
      rfl

theorem Refuses.fetch_eq {text : WideString} (h : Refuses s url outcome text) :
    s.fetch fault url outcome = .error (.model (fault text)) := by
  cases h with
  | unreachable => rfl
  | status body htaken hstatus =>
      simp only [fetch, successful, htaken, hstatus, bind, Except.bind]
      rfl

theorem checkAnswered_cases (url : String) :
    checkAnswered url = .ok () ∨ ∃ text, checkAnswered url = .error (.host .value text) := by
  unfold checkAnswered
  dsimp only
  split
  · exact .inl rfl
  · exact .inr ⟨_, rfl⟩

theorem fetch_unreadable {status : Nat} {body : Text.Bytes} {e : Http.Foreign} (htaken : checkAnswered url = .ok ())
    (hsuccess : Http.isSuccess status = true) (hread : s.library.read body = .error e) :
    s.fetch fault url (.response status body) = .error e.failure := by
  simp only [fetch, successful, htaken, hsuccess, bind, Except.bind, pure, Except.pure, if_true]
  rw [readBody, hread]
  rfl

theorem brings_or_refuses (s : LocalServer) (fault : WideString → ModelFault) (url : String) (outcome : Http.Outcome) :
    (∃ data, Brings s url outcome data) ∨ (∃ text, Refuses s url outcome text) ∨
      ∃ kind text, s.fetch fault url outcome = .error (.host kind text) := by
  cases outcome with
  | unreachable text => exact .inr (.inl ⟨text, .unreachable text⟩)
  | response status body =>
      obtain htaken | ⟨text, htaken⟩ := checkAnswered_cases url
      · cases hsuccess : Http.isSuccess status with
        | false => exact .inr (.inl ⟨_, .status body htaken hsuccess⟩)
        | true =>
            cases hread : s.library.read body with
            | ok data => exact .inl ⟨data, .body htaken hsuccess hread⟩
            | error e => exact .inr (.inr ⟨e.fault, e.text, fetch_unreadable htaken hsuccess hread⟩)
      · refine .inr (.inr ⟨.value, text, ?_⟩)
        simp only [fetch, successful, htaken]
        rfl

end Playbook.LocalServer
