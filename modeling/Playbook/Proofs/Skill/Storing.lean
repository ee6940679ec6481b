import Playbook.Proofs.Skill.Asking
/-!
# Who changes a variable

A piece of work spares a variable if it leaves its value alone in every session, and stores it if it sets it whenever it
brings something. A built-in skill stores the variable that its arguments name and spares all others, and so does the
directive that it is registered for.
-/

namespace Playbook

open Text

theorem Variables.get?_set (vs : Variables) (name value : WideString) : (vs.set name value).get? name = some value := by
  rw [get?, set, lookup_insertValue, if_pos rfl]

/-! ### Pieces of work -/

namespace Work

variable {α β : Type} {x : WideString}

def Spares (x : WideString) (y : Work α) : Prop :=
  ∀ api : Api, (y.run api).2.bindings.get? x = api.bindings.get? x

def Stores (x : WideString) (y : Work α) : Prop :=
  ∀ api a, (y.run api).1 = .ok a → ∃ value, (y.run api).2.bindings = api.bindings.set x value

/-- Work that stays in its scope spares what is outside. -/
theorem Atomic.spares {scope : Scope} {good : α → Prop} {y : Work α} (h : y.Atomic scope good)
    (hscope : scope.binding ≠ some x) : y.Spares x := by
  intro api
  obtain ⟨hkept, -⟩ := h api
  cases hresult : (y.run api).1 with
  | error e =>
      rw [hresult] at hkept
      rw [Api.Same.bindings hkept]
  | ok a =>
      rw [hresult] at hkept
      exact Api.Framed.others hkept x hscope

/-! ### Work that stores -/

theorem stores_setVariable (name : WideString) (value : Json) : (setVariable name value).Stores name := by
  intro api a h
  rw [run_setVariable] at h ⊢
  cases hset : api.bindings.setValue name value with
  | error e =>
      rw [hset] at h
      cases h
  | ok bindings => exact Variables.setValue_eq_ok hset

theorem Still.bind_stores_of {y : Work α} {f : α → Work β} (hy : y.Still)
    (hf : ∀ api a, (y.run api).1 = .ok a → (f a).Stores x) : (y >>= f).Stores x := by
  intro api b h
  have hsame := hy api
  have hfound := hf api
  rcases hrun : y.run api with ⟨e | a, api'⟩
  · rw [run_bind_of_error hrun] at h
    cases h
  · rw [hrun] at hsame hfound
    rw [run_bind_of_ok hrun] at h ⊢
    rw [← hsame.bindings]
    exact hfound a rfl api' b h

theorem Still.bind_stores {y : Work α} {f : α → Work β} (hy : y.Still) (hf : ∀ a, (f a).Stores x) : (y >>= f).Stores x :=
  hy.bind_stores_of fun _ a _ => hf a

/-- What comes behind the write changes nothing. -/
theorem Stores.bind_pure {y : Work α} (hy : y.Stores x) (f : α → β) : (y >>= fun a => pure (f a)).Stores x := by
  intro api b h
  have hstored := hy api
  rcases hrun : y.run api with ⟨e | a, api'⟩
  · rw [run_bind_of_error hrun] at h
    cases h
  · rw [hrun] at hstored
    rw [run_bind_of_ok hrun]
    exact hstored a rfl

end Work

/-! ### Activities -/

namespace Activity

variable {α β : Type} {x : WideString}

/-- All its pieces of work spare the variable. -/
def Spares (x : WideString) : Activity α → Prop
  | finish _ => True
  | work piece next => piece.Spares x ∧ ∀ result, (next result).Spares x
  | wait _ next => next.Spares x
  | command _ next => ∀ answer, (next answer).Spares x

theorem Spares.andThen {a : Activity α} (h : a.Spares x) (f : α → Except Failure β) : (a.andThen f).Spares x := by
  induction a with
  | finish result => trivial
  | work piece next ih => exact ⟨h.1, fun result => ih result (h.2 result)⟩
  | wait gate next ih => exact ih h
  | command c next ih => exact fun answer => ih answer (h answer)

end Activity

/-- A directive spares what its skill spares. -/
theorem Registry.dispatch_spares {r : Registry} {name : String} {x : WideString} {args : Arguments}
    (h : ∀ s, (name, s) ∈ r → (s.activity args).Spares x) : (r.dispatch name args).Spares x := by
  rcases r.dispatch_cases name args with ⟨f, hfails⟩ | ⟨s, hs, hdoes⟩
  · rw [hfails]
    trivial
  · rw [hdoes]
    exact (h s hs).andThen (messagesOf name)

/-! ### The built-in skills -/

namespace Builtin

open Work

variable {args : Arguments} {x : WideString}

theorem stores_variable (hx : variableName args = some x) (value : Json) (product : Product) :
    (do if let some name := filled? (args.lookup "variable") then Work.setVariable name.strip value
        return product : Work Product).Stores x := by
  unfold variableName at hx
  cases hname : filled? (args.lookup "variable") with
  | none =>
      rw [hname] at hx
      cases hx
  | some name =>
      rw [hname] at hx
      cases hx
      exact (stores_setVariable _ _).bind_pure fun _ => product

theorem task_stores (hx : (scope Task.skill.name args).binding = some x) : (Task.work args).Stores x := by
  change (if (args.lookup "debug").isSome then none else variableName args) = some x at hx
  split at hx
  · cases hx
  · rename_i hdebug
    apply (still_ofExcept _).bind_stores
    intro _
    apply (still_substitute _ _).bind_stores
    intro prompt
    rw [if_neg hdebug]
    exact (still_send _ _ _ _).bind_stores fun reply => stores_variable hx reply.text _

theorem execute_stores (limit : Option TimeLimit) (hx : (scope (Execute.skill limit).name args).binding = some x) :
    (Execute.work limit args).Stores x :=
  (still_run limit).bind_stores fun output => stores_variable hx (.str (output : WideString)) _

/-- The user is asked after the variable was found to be named. -/
theorem askUser_stores (hx : (scope input.name args).binding = some x) : (askUser args).Stores x := by
  apply (still_ofExcept _).bind_stores
  intro prompt
  apply (still_ofExcept _).bind_stores_of
  intro api name hname
  rw [run_ofExcept] at hname
  change (filled? (args.lookup "variable")).map WideString.strip = some x at hx
  rw [filled?_of_requireText hname] at hx
  cases hx
  apply (still_ask prompt).bind_stores
  intro answer
  exact (stores_setVariable _ _).bind_pure fun _ => Product.messages []

theorem skills_store {limit : Option TimeLimit} {s : Skill} (hs : s ∈ skills limit)
    (hx : (scope s.name args).binding = some x) :
    ∃ work : Arguments → Work Product, s.activity = (fun args => .ofWork (work args)) ∧ (work args).Stores x := by
  simp only [skills, List.mem_cons, List.not_mem_nil, or_false] at hs
  rcases hs with rfl | rfl | rfl | rfl | rfl | rfl
  · cases hx
  · cases hx
  · exact ⟨Task.work, rfl, task_stores hx⟩
  · exact ⟨Execute.work limit, rfl, execute_stores limit hx⟩
  · cases hx
  · exact ⟨askUser, rfl, askUser_stores hx⟩

/-- A built-in directive spares every variable that it does not name. -/
theorem registry_spares (limit : Option TimeLimit) (name : String) (args : Arguments)
    (hx : (scope name args).binding ≠ some x) : ((registry limit).dispatch name args).Spares x := by
  apply Registry.dispatch_spares
  intro s hs
  obtain ⟨s', hs', heq⟩ := List.mem_map.1 hs
  cases heq
  obtain ⟨work, hactivity, hatomic⟩ := exists_work hs'
  rw [hactivity]
  exact ⟨(hatomic args).spares hx, fun _ => trivial⟩

end Builtin

end Playbook
