import Playbook.Proofs.Document.Entries
import Playbook.Skill.Registry
/-!
# What a history leaves in a registry

Skills are registered, under their own names or other ones, and removed again. Which names a registry lists, and which
skill each of them stands for, can be read off the history: a registration lasts until its name is removed, the listed
names are those of the lasting registrations, each in the place of the first of them, and a name stands for the skill
that was registered last. A description, however, goes by the name that the skill has itself. So the described names are
the listed ones just if no skill is registered under another name than its own.
-/

namespace Playbook

/-! ### Requests -/

/-- What a registry can be asked. -/
inductive RegistryRequest where
  | register (s : Skill) (other : String)
  | unregister (name : String)

namespace RegistryRequest

/-- The name and the skill that are registered. A skill without any name is turned down. -/
def entry? : RegistryRequest → Option (String × Skill)
  | register s other =>
    if other ≠ "" then some (other, s)
    else if s.name ≠ "" then some (s.name, s)
    else none
  | unregister _ => none

def removes : RegistryRequest → String → Bool
  | register .., _ => false
  | unregister gone, name => decide (name = gone)

end RegistryRequest

/-- The registrations whose names were not removed later. -/
def lasting : List RegistryRequest → List (String × Skill)
  | [] => []
  | r :: rest => (r.entry?.toList.filter fun e => !rest.any (·.removes e.1)) ++ lasting rest

/-- One request more removes what it removes, and adds what it registers. -/
theorem lasting_concat (history : List RegistryRequest) (r : RegistryRequest) :
    lasting (history ++ [r]) = (lasting history).filter (fun e => !r.removes e.1) ++ r.entry?.toList := by
  induction history with
  | nil => simp [lasting]
  | cons first rest ih =>
      rw [List.cons_append, lasting, ih, lasting, List.filter_append, List.filter_filter, List.append_assoc]
      congr 2
      funext e
      rw [List.any_append, List.any_cons, List.any_nil, Bool.or_false, Bool.not_or, Bool.and_comm]

namespace Registry

/-! ### Registries after requests -/

/-- A request that is turned down leaves the registry as it is. -/
def next (r : Registry) : RegistryRequest → Registry
  | .register s other => (r.register s other).toOption.getD r
  | .unregister name => r.unregister name

def after (r : Registry) (history : List RegistryRequest) : Registry := history.foldl next r

variable {r : Registry} {history : List RegistryRequest} {request : RegistryRequest}

theorem after_concat (r : Registry) (history : List RegistryRequest) (request : RegistryRequest) :
    r.after (history ++ [request]) = (r.after history).next request := by
  rw [after, List.foldl_append, after]
  rfl

theorem next_of_entry {key : String} {s : Skill} (h : request.entry? = some (key, s)) :
    r.next request = insertValue key s r ∧ ∀ name, request.removes name = false := by
  cases request with
  | unregister _ => cases h
  | register s' other =>
      refine ⟨?_, fun _ => rfl⟩
      rw [RegistryRequest.entry?] at h
      rw [next, register]
      split at h
      · rename_i hother
        cases h
        simp [hother, Except.toOption]
      rename_i hother
      split at h
      · rename_i hname
        cases h
        simp [not_not.1 hother, hname, Except.toOption]
      · cases h

/-- Where nothing is registered, something may be removed; nothing is if the request is turned down. -/
theorem next_of_noEntry (h : request.entry? = none) : r.next request = r.filter fun e => !request.removes e.1 := by
  cases request with
  | unregister gone =>
      rw [next, unregister]
      exact List.filter_congr fun e _ => by simp [RegistryRequest.removes]
  | register s other =>
      have hnameless : other = "" ∧ s.name = "" := by
        rw [RegistryRequest.entry?] at h
        split at h
        · cases h
        · split at h
          · cases h
          · exact ⟨not_not.1 ‹_›, not_not.1 ‹_›⟩
      simp [next, register, hnameless, RegistryRequest.removes, Except.toOption]

/-! ### What is left -/

/-- The registry holds what the history says. -/
structure Recalls (r : Registry) (history : List RegistryRequest) : Prop where
  names : r.names = ((lasting history).map (·.1)).eraseDups
  latest : ∀ name, r.get? name = (lasting history).reverse.lookup name

theorem nil_recalls : Recalls [] [] := ⟨rfl, fun _ => rfl⟩

theorem Recalls.register {key : String} {s : Skill} (h : r.Recalls history) (hentry : request.entry? = some (key, s)) :
    (r.next request).Recalls (history ++ [request]) := by
  obtain ⟨hnext, hremoves⟩ := next_of_entry (r := r) hentry
  have hlasting : lasting (history ++ [request]) = lasting history ++ [(key, s)] := by
    rw [lasting_concat, hentry, List.filter_eq_self.2 fun e _ => by rw [hremoves e.1]; rfl]
    rfl
  refine ⟨?_, fun name => ?_⟩
  · rw [hnext, hlasting, List.map_append]
    exact names_insertValue_of_eraseDups h.names key s
  · rw [hnext, hlasting, List.reverse_append, List.reverse_singleton, List.singleton_append, lookup_cons_eq,
      ← h.latest name]
    exact lookup_insertValue key s r name

theorem Recalls.remove (h : r.Recalls history) (hentry : request.entry? = none) :
    (r.next request).Recalls (history ++ [request]) := by
  have hlasting : lasting (history ++ [request]) = (lasting history).filter (fun e => !request.removes e.1) := by
    rw [lasting_concat, hentry, Option.toList_none, List.append_nil]
  have hnames (entries : List (String × Skill)) :
      (entries.filter fun e => !request.removes e.1).map (·.1) =
        (entries.map (·.1)).filter fun name => !request.removes name := by
    rw [List.filter_map]
    rfl
  refine ⟨?_, fun name => ?_⟩
  · rw [next_of_noEntry hentry, hlasting, Registry.names, hnames, hnames, eraseDups_filter, ← h.names, Registry.names]
  · rw [next_of_noEntry hentry, hlasting, ← List.filter_reverse, lookup_filter (!request.removes ·), ← h.latest]
    exact lookup_filter (!request.removes ·) r name

theorem after_recalls (history : List RegistryRequest) : (after [] history).Recalls history := by
  induction history using List.reverseRecOn with
  | nil => exact nil_recalls
  | append_singleton history request ih =>
      rw [after_concat]
      cases hentry : request.entry? with
      | some entry => exact ih.register hentry
      | none => exact ih.remove hentry

/-! ### Looking up, dispatching, describing -/

/-- The names in the descriptions of the skills. -/
def describedNames (r : Registry) : List String := r.skills.map (·.name)

theorem mem_names (r : Registry) (name : String) : name ∈ r.names ↔ ∃ s, r.get? name = some s := by
  rw [names, mem_names_iff, get?, Option.isSome_iff_exists]

theorem dispatch_of_unlisted {name : String} (h : name ∉ r.names) (args : Arguments) :
    r.dispatch name args = .finish (.error (.unknownSkill name r.names)) := by
  have hnone : r.get? name = none := by
    rw [← Option.not_isSome_iff_eq_none, Option.isSome_iff_exists, ← mem_names]
    exact h
  rw [dispatch, hnone]

/-- A skill that is found does its work if it is given all that it requires. -/
theorem dispatch_of_get {name : String} {s : Skill} (h : r.get? name = some s) {args : Arguments}
    (hargs : ∀ p ∈ s.requiredNames, (args.lookup p).isSome = true) :
    r.dispatch name args = (s.activity args).andThen (messagesOf name) := by
  have hmissing : s.requiredNames.filter (fun p => !args.any (·.1 = p)) = [] := by
    rw [List.filter_eq_nil_iff]
    intro p hp
    rw [any_name_iff, hargs p hp]
    decide
  rw [dispatch, h]
  simp only [hmissing, List.isEmpty_nil, if_true]

/-- The skills in the order of the list, each found under its name there. -/
theorem skills_eq (hnodup : r.names.Nodup) : r.skills.map some = r.names.map r.get? := by
  rw [skills, names, List.map_map, List.map_map]
  refine List.map_congr_left fun e he => ?_
  exact (lookup_of_mem hnodup he).symm

theorem describedNames_eq_iff (hnodup : r.names.Nodup) :
    r.describedNames = r.names ↔ ∀ name s, r.get? name = some s → s.name = name := by
  rw [describedNames, skills, names, List.map_map, List.map_inj_left]
  constructor
  · intro h name s hs
    obtain ⟨before, after, hr, -⟩ := List.lookup_eq_some_iff.1 hs
    exact h (name, s) (hr ▸ List.mem_append_right before List.mem_cons_self)
  · intro h e he
    exact h e.1 e.2 (lookup_of_mem hnodup he)

/-- **Registries.** After any history no name is listed twice, the listed names are those of the registrations that last,
in the order in which these came first, and each name stands for the skill that was registered last. Just the listed
names can be dispatched, and the skills are described in their order; but the names in the descriptions are the listed
ones only if each skill is registered under its own. -/
theorem after_described (history : List RegistryRequest) :
    let r := after [] history
    (r.names.Nodup ∧ r.names = ((lasting history).map (·.1)).eraseDups) ∧
    (∀ name, r.get? name = (lasting history).reverse.lookup name) ∧
    (∀ name, name ∈ r.names ↔ ∃ s, r.get? name = some s) ∧
    (∀ name args, name ∉ r.names → r.dispatch name args = .finish (.error (.unknownSkill name r.names))) ∧
    (∀ name s args, r.get? name = some s → (∀ p ∈ s.requiredNames, (args.lookup p).isSome = true) →
      r.dispatch name args = (s.activity args).andThen (messagesOf name)) ∧
    r.skills.map some = r.names.map r.get? ∧
    (r.describedNames = r.names ↔ ∀ name s, r.get? name = some s → s.name = name) := by
  intro r
  have hrecalls : r.Recalls history := after_recalls history
  have hnodup : r.names.Nodup := hrecalls.names ▸ nodup_eraseDups _
  exact ⟨⟨hnodup, hrecalls.names⟩, hrecalls.latest, r.mem_names, fun _ args h => dispatch_of_unlisted h args,
    fun _ _ _ h hargs => dispatch_of_get h hargs, skills_eq hnodup, describedNames_eq_iff hnodup⟩

/-- A skill that is removed and registered again comes last, and one that is replaced keeps its place. -/
theorem after_described_again :
    let skill (name description : String) : Skill :=
      .ofWork name description [⟨"text", "", true⟩] false fun _ => pure (.messages [])
    let r := after [] [.register (skill "ask" "old") "", .register (skill "say" "old") "", .unregister "ask",
      .register (skill "ask" "new") "", .register (skill "say" "new") "", .register (skill "" "") ""]
    (r.names = ["say", "ask"] ∧ r.get? "say" = some (skill "say" "new")) ∧
      ("hush" ∉ r.names ∧ r.dispatch "hush" [] = .finish (.error (.unknownSkill "hush" r.names))) ∧
      r.dispatch "ask" [("text", .str "hi")] =
        ((skill "ask" "new").activity [("text", .str "hi")]).andThen (messagesOf "ask") := by
  intro skill r
  have hnames : r.names = ["say", "ask"] := by decide
  have hhush : "hush" ∉ r.names := by rw [hnames]; decide
  obtain ⟨-, -, -, hunlisted, hlisted, -⟩ := after_described
    [.register (skill "ask" "old") "", .register (skill "say" "old") "", .unregister "ask",
      .register (skill "ask" "new") "", .register (skill "say" "new") "", .register (skill "" "") ""]
  refine ⟨⟨hnames, rfl⟩, ⟨hhush, hunlisted "hush" [] hhush⟩, hlisted "ask" _ _ rfl ?_⟩
  decide

/-- A skill under another name is described by its own, which is not listed. -/
theorem not_described_of_alias : ¬ ∀ history, (after [] history).describedNames = (after [] history).names := by
  intro hall
  let needs : Skill := .ofWork "needs" "" [] false fun _ => pure (.messages [])
  have hsame := hall [.register needs "alias"]
  revert hsame
  decide

end Registry

end Playbook
