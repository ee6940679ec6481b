import Playbook.Proofs.Conversation.Histories
/-!
# Contexts as a store

A store keeps each conversation, which knows its own name, under a key, and changes one thing after the other: what is
done before an operation fails stays done, and a key that is not there is a fault. The contexts that are handed on as
values never get into such states. The store does what they do, request by request; so it always finds what it looks for,
it fails before it has changed anything, and what it holds can be read off the requests.
-/

namespace Playbook

structure Conversation where
  name : WideString
  messages : List Message
deriving Repr, DecidableEq

structure ConversationStore where
  entries : List (WideString × Conversation)
  selected : WideString
  home : WideString
deriving Repr, DecidableEq

namespace ConversationStore

/-- Changes to a store. What is changed before a fault stays changed. -/
abbrev Change (α : Type) := ExceptT Failure (StateM ConversationStore) α

/-! ### Operations -/

def look (key : WideString) : Change Conversation := do
  match (← get).entries.lookup key with
  | some c => return c
  | none => throw (.host .key (Text.quoted key))

def put (key : WideString) (c : Conversation) : Change Unit :=
  modify fun s => { s with entries := insertValue key c s.entries }

def select (name : Json) : Change Conversation := do
  let name := name.text.strip
  if name.isEmpty then throw .blankContextName
  if ((← get).entries.lookup name).isNone then put name ⟨name, []⟩
  modify fun s => { s with selected := name }
  look name

/-- Messages go to the end of the conversation that is selected. -/
def record (ms : List Message) : Change Unit := do
  let s ← get
  let c ← look s.selected
  put s.selected { c with messages := c.messages ++ ms }

def clear : Change Unit := do
  modify fun s => { s with entries := [], selected := [] }
  let _ ← select (.str (← get).home)

def request : ContextRequest → Change Unit
  | .select name => do let _ ← select name
  | .append m => record [m]
  | .add role content => do record [← Message.parse role content]
  | .extend ms => record ms
  | .clear => clear

/-- A store in which only the home conversation exists. -/
def make (home : WideString) : Except Failure ConversationStore :=
  match (select (.str home)).run ⟨[], [], home⟩ with
  | (.ok _, s) => .ok s
  | (.error e, _) => .error e

def act (s : ConversationStore) (r : ContextRequest) : Except Failure Unit × ConversationStore := (request r).run s

def after (s : ConversationStore) (history : List ContextRequest) : ConversationStore :=
  history.foldl (fun s r => (s.act r).2) s

def entry (conversation : WideString × List Message) : WideString × Conversation :=
  (conversation.1, ⟨conversation.1, conversation.2⟩)

/-- Every conversation under its own name. -/
def ofContexts (c : Contexts) : ConversationStore := ⟨c.conversations.map entry, c.selected, c.home⟩

/-! ### Keys -/

section Keys

variable {conversations : List (WideString × List Message)} {name : WideString}

/-- Putting the longer conversation in the place of the old one changes no other, as no name stands twice. -/
theorem insertValue_map_entry (hnodup : (conversations.map (·.1)).Nodup) {old : List Message}
    (h : conversations.lookup name = some old) (added : List Message) :
    insertValue name ⟨name, old ++ added⟩ (conversations.map entry) =
      (conversations.map fun (n, ms) => if n = name then (n, ms ++ added) else (n, ms)).map entry := by
  induction conversations with
  | nil => cases h
  | cons p rest ih =>
      obtain ⟨n, ms⟩ := p
      rw [List.map_cons, List.nodup_cons] at hnodup
      rw [List.lookup_cons] at h
      simp only [List.map_cons]
      by_cases hname : n = name
      · subst hname
        rw [beq_self_eq_true] at h
        cases h
        have hrest : (rest.map fun (m, ms) => if m = n then (m, ms ++ added) else (m, ms)) = rest := by
          rw [List.map_congr_left (g := id), List.map_id]
          exact fun p hp => if_neg fun hpn => hnodup.1 (List.mem_map.2 ⟨p, hp, hpn⟩)
        rw [hrest, if_pos rfl, entry, insertValue, if_pos rfl, entry]
      · rw [beq_eq_false_iff_ne.2 (Ne.symm hname)] at h
        rw [if_neg hname, ← ih hnodup.2 h, entry, insertValue, if_neg hname]

end Keys

/-! ### Step by step -/

section Steps

variable {c : Contexts} {s : ConversationStore}

theorem run_bind {α β : Type} (x : Change α) (f : α → Change β) (s : ConversationStore) :
    (x >>= f).run s = match x.run s with
      | (.ok a, s') => (f a).run s'
      | (.error e, s') => (.error e, s') := by
  rw [ExceptT.run_bind]
  change StateT.bind x.run _ s = _
  simp only [StateT.bind, bind]
  rcases x.run s with ⟨e | a, s'⟩ <;> rfl

theorem run_modify (g : ConversationStore → ConversationStore) (s : ConversationStore) :
    (modify g : Change PUnit).run s = (.ok ⟨⟩, g s) := rfl

theorem run_get (s : ConversationStore) : (get : Change ConversationStore).run s = (.ok s, s) := rfl

theorem run_look (s : ConversationStore) (key : WideString) :
    (look key).run s = (match s.entries.lookup key with
      | some c => .ok c
      | none => .error (.host .key (Text.quoted key)), s) := by
  change (match s.entries.lookup key with
    | some c => pure c
    | none => throw (.host .key (Text.quoted key)) : Change Conversation).run s = _
  cases s.entries.lookup key <;> rfl

/-- What is selected is found at once: it was there, or it has just been put in. -/
theorem run_select (s : ConversationStore) (name : Json) :
    (select name).run s =
      if (name.text.strip).isEmpty then (.error .blankContextName, s)
      else match s.entries.lookup (name.text.strip) with
        | some found => (.ok found, ⟨s.entries, name.text.strip, s.home⟩)
        | none => (.ok ⟨name.text.strip, []⟩,
            ⟨s.entries ++ [(name.text.strip, ⟨name.text.strip, []⟩)], name.text.strip, s.home⟩) := by
  unfold select
  cases hblank : (name.text.strip).isEmpty with
  | true =>
      simp only [hblank, if_true]
      rfl
  | false =>
      simp only [hblank, Bool.false_eq_true, if_false]
      change ExceptT.run (if (s.entries.lookup (name.text.strip)).isNone = true then _ else _ : Change Conversation) s = _
      cases hfound : s.entries.lookup (name.text.strip) with
      | some found =>
          change (look (name.text.strip)).run ⟨s.entries, name.text.strip, s.home⟩ = _
          rw [run_look, hfound]
      | none =>
          change (look (name.text.strip)).run ⟨insertValue _ _ s.entries, name.text.strip, s.home⟩ = _
          rw [run_look, insertValue_of_lookup hfound, List.lookup_append, hfound]
          simp

theorem run_record (s : ConversationStore) (ms : List Message) :
    (record ms).run s = match s.entries.lookup s.selected with
      | some c => (.ok (), { s with entries := insertValue s.selected { c with messages := c.messages ++ ms } s.entries })
      | none => (.error (.host .key (Text.quoted s.selected)), s) := by
  change (look s.selected >>= fun c => put s.selected { c with messages := c.messages ++ ms }).run s = _
  rw [run_bind, run_look]
  cases s.entries.lookup s.selected <;> rfl

/-! ### The store of contexts -/

theorem lookup_ofContexts (c : Contexts) (name : WideString) :
    (ofContexts c).entries.lookup name = (c.find? name).map (⟨name, ·⟩) :=
  lookup_map_value Conversation.mk c.conversations name

theorem select_ofContexts (c : Contexts) (name : Json) :
    (request (.select name)).run (ofContexts c) = match c.select name.text with
      | .ok c' => (.ok (), ofContexts c')
      | .error e => (.error e, ofContexts c) := by
  rw [request, run_bind, run_select, lookup_ofContexts, Contexts.select]
  cases hblank : (name.text.strip).isEmpty with
  | true => rfl
  | false =>
      simp only [Bool.false_eq_true, if_false]
      cases hfind : c.find? (name.text.strip) with
      | some ms => rfl
      | none =>
          simp only [Option.map_none, Option.isSome_none, Bool.false_eq_true, if_false, ofContexts, List.map_append]
          rfl

theorem record_ofContexts (hnodup : c.names.Nodup) (hselected : c.HasSelected) (ms : List Message) :
    (record ms).run (ofContexts c) = (.ok (), ofContexts (c.extend ms)) := by
  obtain ⟨old, hold⟩ := Option.isSome_iff_exists.1 hselected
  have hlookup : (ofContexts c).entries.lookup (ofContexts c).selected = some ⟨c.selected, old⟩ := by
    rw [lookup_ofContexts]
    exact congrArg (Option.map _) hold
  rw [run_record, hlookup]
  simp only [ofContexts, Contexts.extend, insertValue_map_entry hnodup hold]

theorem clear_ofContexts {fresh : Contexts} (h : c.clear = .ok fresh) :
    (request .clear).run (ofContexts c) = (.ok (), ofContexts fresh) := by
  have hselect := select_ofContexts ⟨[], [], c.home⟩ (.str c.home)
  have hfresh : Contexts.select ⟨[], [], c.home⟩ (Json.str c.home).text = .ok fresh := h
  have hempty : ofContexts ⟨[], [], c.home⟩ = ⟨[], [], c.home⟩ := rfl
  have hhome : (ofContexts c).home = c.home := rfl
  rw [request, hfresh, hempty] at hselect
  rw [request, clear, run_bind, run_modify]
  dsimp only
  rw [run_bind, run_get, hhome]
  exact hselect

theorem make_eq_ok {home : WideString} (h : make home = .ok s) : ∃ c, Contexts.new home = .ok c ∧ s = ofContexts c := by
  have hselect := select_ofContexts ⟨[], [], home⟩ (.str home)
  have hnew : Contexts.select ⟨[], [], home⟩ (Json.str home).text = Contexts.new home := rfl
  rw [request, run_bind, hnew] at hselect
  have hempty : ofContexts ⟨[], [], home⟩ = ⟨[], [], home⟩ := rfl
  rw [make, ← hempty] at h
  rcases hrun : (select (.str home)).run (ofContexts ⟨[], [], home⟩) with ⟨e | found, s'⟩
  · rw [hrun] at h
    cases h
  · rw [hrun] at h hselect
    cases h
    cases hnew : Contexts.new home with
    | ok c =>
        rw [hnew] at hselect
        exact ⟨c, rfl, (Prod.mk.inj hselect).2⟩
    | error e =>
        rw [hnew] at hselect
        cases hselect

end Steps

/-! ### Histories -/

section Histories

variable {c fresh : Contexts} {home : WideString} {history : List ContextRequest}

/-- A step of the store is a step of the contexts, and a step that fails leaves the store as it was. -/
theorem act_ofContexts (h : c.Recounts home history) (hnew : Contexts.new home = .ok fresh) (r : ContextRequest) :
    (ofContexts c).act r = match c.answer r with
      | .ok c' => (.ok (), ofContexts c')
      | .error e => (.error e, ofContexts c) := by
  cases r with
  | select name =>
      rw [act, select_ofContexts, Contexts.answer]
      cases c.select name.text <;> rfl
  | append m => rw [act, request, record_ofContexts h.nodup h.hasSelected, Contexts.answer, Contexts.append]
  | add name content =>
      rw [act, request, run_bind, Contexts.answer, Contexts.add_eq, Message.parse, Role.parse]
      cases Role.ofText? name with
      | none => rfl
      | some role => exact record_ofContexts h.nodup h.hasSelected [⟨role, content⟩]
  | extend ms => rw [act, request, record_ofContexts h.nodup h.hasSelected, Contexts.answer]
  | clear =>
      have hclear := h.clear hnew
      rw [act, clear_ofContexts hclear, Contexts.answer, hclear]

theorem after_ofContexts (hnew : Contexts.new home = .ok fresh) (history : List ContextRequest) :
    (ofContexts fresh).after history = ofContexts (fresh.after history) := by
  induction history using List.reverseRecOn with
  | nil => rfl
  | append_singleton history r ih =>
      have hlast : (ofContexts fresh).after (history ++ [r]) = (((ofContexts fresh).after history).act r).2 := by
        rw [after, List.foldl_append]
        rfl
      rw [hlast, ih, act_ofContexts (Contexts.after_recounts hnew history) hnew, Contexts.after_concat, Contexts.next]
      cases (fresh.after history).answer r <;> rfl

theorem answer_eq_error_iff (h : c.Recounts home history) (hnew : Contexts.new home = .ok fresh) (r : ContextRequest)
    (e : Failure) : c.answer r = .error e ↔ r.refusal? = some e := by
  cases r with
  | select name =>
      rw [ContextRequest.refusal?]
      by_cases hblank : name.text.strip = []
      · rw [Contexts.answer, Contexts.select]
        simp [hblank]
      · obtain ⟨c', -, hanswer, -⟩ := Contexts.next_of_chosen (c := c) (ContextRequest.chosen_select.2 ⟨rfl, hblank⟩)
        rw [hanswer, if_neg hblank]
        simp
  | append m => simp [Contexts.answer, ContextRequest.refusal?]
  | add name content =>
      rw [Contexts.answer, Contexts.add_eq, ContextRequest.refusal?]
      cases Role.ofText? name with
      | none => simp
      | some role => simp
  | extend ms => simp [Contexts.answer, ContextRequest.refusal?]
  | clear =>
      rw [Contexts.answer, h.clear hnew]
      simp [ContextRequest.refusal?]

/-- A store whose contents are what the requests since the last new beginning come to. -/
structure Keeps (s : ConversationStore) (home : WideString) (history : List ContextRequest) : Prop where
  selected : ∃ c, s.entries.lookup s.selected = some c
  keys : ∀ key c, (key, c) ∈ s.entries → c.name = key ∧ key ≠ [] ∧ key.strip = key
  names : s.entries.map (·.1) = (selections home history).eraseDups
  messages : ∀ key c, (key, c) ∈ s.entries → c.messages = messagesFor home key history

theorem keeps_ofContexts (hhome : home.strip ≠ []) (h : c.Recounts home history) : (ofContexts c).Keeps home history where
  selected := by
    obtain ⟨ms, hms⟩ := Option.isSome_iff_exists.1 h.hasSelected
    exact ⟨⟨c.selected, ms⟩, by rw [lookup_ofContexts]; exact congrArg (Option.map _) hms⟩
  keys := by
    intro key conversation hmem
    obtain ⟨⟨name, ms⟩, hname, hentry⟩ := List.mem_map.1 hmem
    cases hentry
    have hselected : name ∈ selections home history := by
      rw [← List.mem_eraseDups, ← h.names]
      exact List.mem_map_of_mem hname
    refine ⟨rfl, ?_⟩
    rcases List.mem_cons.1 hselected with rfl | hchosen
    · exact ⟨hhome, WideString.strip_strip home⟩
    · obtain ⟨r, -, hr⟩ := List.mem_filterMap.1 hchosen
      exact ContextRequest.chosen_isStripped hr
  names := by
    rw [← h.names, ofContexts, List.map_map]
    rfl
  messages := by
    intro key conversation hmem
    obtain ⟨⟨name, ms⟩, hname, hentry⟩ := List.mem_map.1 hmem
    cases hentry
    rw [← h.messages, Contexts.messagesIn_of_mem h.nodup hname]

/-- Whatever is asked of a store, in any order: what it holds is what the requests say, it is the store of the contexts
that are asked the same, and a request is turned down for its own sake only and leaves everything as it is. -/
theorem after_keeps {s : ConversationStore} (hmade : make home = .ok s) (history : List ContextRequest) :
    (s.after history).Keeps home (sinceClear history) ∧
      (∃ c, Contexts.new home = .ok c ∧ s.after history = ofContexts (c.after history)) ∧
      ∀ r, (∀ e, ((s.after history).act r).1 = .error e ↔ r.refusal? = some e) ∧
        (r.refusal?.isSome = true → ((s.after history).act r).2 = s.after history) := by
  obtain ⟨c, hnew, rfl⟩ := make_eq_ok hmade
  have hrecounts := Contexts.after_recounts hnew history
  have hhome : home.strip ≠ [] := Contexts.strip_ne_of_select hnew
  rw [after_ofContexts hnew]
  refine ⟨keeps_ofContexts hhome hrecounts, ⟨c, hnew, rfl⟩, fun r => ?_⟩
  have hstep := act_ofContexts hrecounts hnew r
  have hrefused := answer_eq_error_iff hrecounts hnew r
  rw [hstep]
  cases hanswer : (c.after history).answer r with
  | ok c' =>
      have hnone : r.refusal? = none := by
        cases h : r.refusal? with
        | none => rfl
        | some e => cases hanswer.symm.trans ((hrefused e).2 h)
      exact ⟨fun e => by simp [hnone], fun h => by simp [hnone] at h⟩
  | error e =>
      rw [hanswer] at hrefused
      exact ⟨fun e' => by rw [← hrefused e']; simp, fun _ => rfl⟩

/-- Two conversations after a new beginning, one of them selected again; what is turned down leaves no trace. -/
theorem after_keeps_notes :
    let history : List ContextRequest := [.select (.str "old"), .append (.user "lost"), .clear, .add "user" "hi",
      .select (.str " notes "), .extend [.agent "one", .agent "two"], .select (.int 5), .add "robot" "no",
      .select (.str "main"), .add "assistant" "ho"]
    ∃ s, make " main " = .ok s ∧ (s.after history).Keeps " main " (sinceClear history) ∧
      (s.after history).selected = "main" ∧ (s.after history).entries = ([
        ("main", ⟨"main", [.user "hi", .assistant "ho"]⟩), ("notes", ⟨"notes", [.agent "one", .agent "two"]⟩)] :
          List (WideString × Conversation)) := by
  intro history
  have hmade : make " main " = .ok ⟨[("main", ⟨"main", []⟩)], "main", " main "⟩ := by decide +kernel
  exact ⟨_, hmade, (after_keeps hmade history).1, by decide +kernel, by decide +kernel⟩

end Histories

end ConversationStore

end Playbook
