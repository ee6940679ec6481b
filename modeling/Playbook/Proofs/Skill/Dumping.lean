import Mathlib.Data.List.Forall2
import Playbook.Proofs.Skill.Asking
import Playbook.Proofs.Text.Json
/-!
# What the task skill writes down

With a debug flag the request is written down instead of being sent. Whoever reads the text as JSON gets the request
back: the prompt as its placeholders leave it, the model if one was asked for, and the messages of the selected
conversation in their order. Only what is longer than the limit is cut, and marked; and halves that stand together in a
text come back as the character that they are together.
-/

namespace Playbook

namespace Task

/-- A text within the limit is shown as it is; of a longer one only as much as the limit allows, and a mark. -/
inductive Shortens (s : WideString) : WideString → Prop
  | whole (hshort : s.length ≤ 500) : Shortens s s
  | cut {front : WideString} (hlong : 500 < s.length) (hfront : front.length = 500) (hstands : front <+: s) :
      Shortens s (front ++ "... [truncated]")

theorem shortens_shorten (s : WideString) : Shortens s (shorten s) := by
  unfold shorten textLimit
  split
  · rename_i hlong
    refine .cut hlong ?_ (List.take_prefix 500 s)
    rw [List.length_take]
    exact Nat.min_eq_left (Nat.le_of_lt hlong)
  · rename_i hshort
    exact .whole (Nat.le_of_not_lt hshort)

/-- A message as it is read in the record. -/
def IsEntry (m : Message) (v : Json) : Prop :=
  ∃ content, v = .obj [("role", .str m.role.text), ("content", .str content.joined)] ∧ Shortens m.content content

/-- The record of a request as it is read: prompt, model and every message of the conversation. -/
def IsRecord (prompt : WideString) (model : Option Json) (history : List Message) (v : Json) : Prop :=
  ∃ shown entries, v = .obj [("prompt", .str shown.joined), ("model", (model.map Json.joined).getD .null),
      ("context", .arr entries)] ∧
    Shortens prompt shown ∧ List.Forall₂ IsEntry history entries

open WideString (joined_ofString)

theorem isEntry_messageJson (m : Message) : IsEntry m (messageJson m).joined := by
  refine ⟨_, ?_, shortens_shorten m.content⟩
  simp only [messageJson, Json.joined, Json.joinedFields, joined_ofString]

theorem isRecord_dump (prompt : WideString) (model : Option Json) (history : List Message) :
    IsRecord prompt model history (dump prompt model history).joined := by
  refine ⟨shorten prompt, (history.map messageJson).map Json.joined, ?_, shortens_shorten prompt, ?_⟩
  · have hmodel : (model.getD .null).joined = (model.map Json.joined).getD .null := by cases model <;> rfl
    simp only [dump, Json.joined, Json.joinedFields, Json.joinedItems_eq_map, joined_ofString, hmodel]
  · rw [List.map_map, List.forall₂_map_right_iff, List.forall₂_same]
    exact fun m _ => isEntry_messageJson m

theorem isExact_messageJson (m : Message) : (messageJson m).IsExact 1 := by
  refine .obj (fun f hf => ?_) ?_
  · rw [List.mem_cons, List.mem_singleton] at hf
    rcases hf with rfl | rfl
    · exact .str _
    · exact .str _
  · simp only [List.map_cons, List.map_nil, joined_ofString]
    decide

/-- Conversations stand three deep in the record. -/
theorem isExact_dump (prompt : WideString) {model : Option Json} {levels : Nat} (hmodel : ∀ v ∈ model, v.IsExact levels)
    (history : List Message) : (dump prompt model history).IsExact (max levels 2 + 1) := by
  refine .obj (fun f hf => ?_) ?_
  · rw [List.mem_cons, List.mem_cons, List.mem_singleton] at hf
    rcases hf with rfl | rfl | rfl
    · exact .str _
    · cases model with
      | none => exact .null
      | some v => exact (hmodel v rfl).mono (Nat.le_max_left levels 2)
    · have hcontext : (Json.arr (history.map messageJson)).IsExact 2 := .arr fun v hv => by
        obtain ⟨m, -, rfl⟩ := List.mem_map.1 hv
        exact isExact_messageJson m
      exact hcontext.mono (Nat.le_max_right levels 2)
  · simp only [List.map_cons, List.map_nil, joined_ofString]
    decide

end Task

namespace Builtin

open Work

/-- **Debug.** With the debug flag a prompt that is not blank is never sent: whatever client there is, or none, the
session is left as it was, and the text that is brought is read as the record of the request, by a reader that goes as
deep as the record. The model that is asked for may be any value that JSON gives back, and so any text; an empty one asks
for none. -/
theorem task_dumps {args : Arguments} {prompt : WideString} {levels : Nat}
    (h : filled? (args.lookup "prompt") = some prompt) (hdebug : (args.lookup "debug").isSome = true)
    (hmodel : ∀ v, args.lookup "model" = some v → v.IsExact levels) (api : Api) :
    ∃ text record,
      (∀ client : Option Client, (Task.work args).run (api.withClient client) =
        (.ok (.messages [.user text, .agent s!"Debug mode: dumped context with {api.history.length} messages"]),
          api.withClient client)) ∧
      (∀ depth, max levels 2 < depth → Json.read depth text = .ok record) ∧
      Task.IsRecord (api.bindings.substitute prompt false) ((args.lookup "model").filter Json.isTruthy) api.history
        record := by
  let dumped := Task.dump (api.bindings.substitute prompt false) (Task.model args) api.history
  have hexact : dumped.IsExact (max levels 2 + 1) :=
    Task.isExact_dump _ (fun v hv => hmodel v (Option.eq_some_of_filter_eq_some hv)) _
  refine ⟨dumped.render, dumped.joined, fun client => ?_, fun depth hdepth => Json.read_render hexact hdepth,
    Task.isRecord_dump _ _ _⟩
  rw [task_of_filled h, hdebug]
  rfl

/-- Quotation marks, line ends and characters beyond the basic plane are read back, and a long message is cut. -/
theorem task_dumps_marks :
    let args : Arguments := [("prompt", .str "say \x7b\x7bwhat\x7d\x7d"), ("model", .str "small"), ("debug", .str "")]
    let history : List Message := [⟨.user, "a \"b\"\n"⟩, ⟨.agent, List.replicate 501 (.char '😀')⟩]
    let api : Api := ⟨⟨[("home", history)], "home", "home"⟩, [("what", "\\ 😀")], none, .bare ⟨[]⟩, [], [], 0, ⟨"/", []⟩⟩
    filled? (args.lookup "prompt") = some ("say \x7b\x7bwhat\x7d\x7d" : WideString) ∧
      (args.lookup "debug").isSome = true ∧ (∀ v, args.lookup "model" = some v → v.IsExact 0) ∧
      ∃ text record,
        (∀ client : Option Client, (Task.work args).run (api.withClient client) =
          (.ok (.messages [.user text, .agent "Debug mode: dumped context with 2 messages"]), api.withClient client)) ∧
        (∀ depth, 2 < depth → Json.read depth text = .ok record) ∧
        Task.IsRecord "say \\ 😀" (some (.str "small")) history record := by
  intro args history api
  have hprompt : filled? (args.lookup "prompt") = some ("say \x7b\x7bwhat\x7d\x7d" : WideString) := by decide +kernel
  have hmodel : ∀ v, args.lookup "model" = some v → v.IsExact 0 := by
    intro v hv
    cases hv
    exact .str "small"
  have hfilled : api.bindings.substitute "say \x7b\x7bwhat\x7d\x7d" false = ("say \\ 😀" : WideString) := by decide +kernel
  have htold : s!"Debug mode: dumped context with {api.history.length} messages" =
      "Debug mode: dumped context with 2 messages" := by decide +kernel
  obtain ⟨text, record, hrun, hread, hrecord⟩ := task_dumps hprompt rfl hmodel api
  exact ⟨hprompt, rfl, hmodel, text, record, htold ▸ hrun, hread, hfilled ▸ hrecord⟩

/-- The value of a variable may end a pair that the prompt begins. The two halves come back as one character. -/
theorem not_dumped_of_halves : ¬ ∀ (args : Arguments) (prompt : WideString) (api : Api),
    filled? (args.lookup "prompt") = some prompt → (args.lookup "debug").isSome = true → args.lookup "model" = none →
    ∃ text told record, ((Task.work args).run api).1 = .ok (.messages [.user text, told]) ∧
      Json.read 3 text = .ok record ∧
      Task.Shortens (api.bindings.substitute prompt false) (record.field "prompt").text := by
  intro hall
  let prompt : WideString := .half 0x3d :: "\x7b\x7bx\x7d\x7d"
  let halves : WideString := [.half 0x3d, .half 0x600]
  let args : Arguments := [("prompt", .str prompt), ("debug", .str "")]
  let api : Api := ⟨⟨[("home", [])], "home", "home"⟩, [("x", [.half 0x600])], none, .bare ⟨[]⟩, [], [], 0, ⟨"/", []⟩⟩
  have hfilled : filled? (args.lookup "prompt") = some prompt := by decide +kernel
  have hsubstitute : api.bindings.substitute prompt false = halves := by decide +kernel
  obtain ⟨text, told, record, hrun, hread, hshortens⟩ := hall args prompt api hfilled rfl rfl
  have hexact : (Task.dump halves none []).IsExact (max 0 2 + 1) :=
    Task.isExact_dump _ (fun v hv => absurd hv (Option.not_mem_none v)) []
  obtain rfl : text = (Task.dump halves none []).render := by
    rw [task_of_filled hfilled, hsubstitute] at hrun
    cases hrun
    rfl
  rw [Json.read_render hexact (by decide)] at hread
  obtain rfl := Except.ok.inj hread
  have hshown : ((Task.dump halves none []).joined.field "prompt").text ≠ halves := by decide +kernel
  rw [hsubstitute] at hshortens
  generalize ((Task.dump halves none []).joined.field "prompt").text = shown at hshortens hshown
  cases hshortens with
  | whole => exact hshown rfl
  | cut hlong => exact absurd hlong (by decide)

end Builtin

end Playbook
