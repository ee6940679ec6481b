import Playbook.Document.Block
import Mathlib.Data.List.DropRight
/-!
# Entries by name

Parameters, settings, conversations and skills are kept as entries with names, in the order in which the names came first.
A look-up finds the first entry of a name, which is the only one where no name stands twice. Where entries are put in one
after another, the last value of a name is left, in the place of the first.
-/

namespace Playbook

section Entries

variable {κ α : Type} [BEq κ] [LawfulBEq κ] {name key : κ} {entries : List (κ × α)}

/-! ### Looking up -/

theorem mem_names_iff (entries : List (κ × α)) (name : κ) :
    name ∈ entries.map (·.1) ↔ (entries.lookup name).isSome = true := by
  rw [List.lookup_isSome_iff, List.mem_map]
  constructor
  · rintro ⟨entry, hentry, rfl⟩
    exact ⟨entry, hentry, beq_self_eq_true _⟩
  · rintro ⟨entry, hentry, hname⟩
    exact ⟨entry, hentry, (beq_iff_eq.1 hname).symm⟩

theorem lookup_of_mem (hnodup : (entries.map (·.1)).Nodup) {value : α} (h : (name, value) ∈ entries) :
    entries.lookup name = some value := by
  obtain ⟨before, after, rfl⟩ := List.append_of_mem h
  refine List.lookup_eq_some_iff.2 ⟨before, after, rfl, fun entry hentry => ?_⟩
  rw [bne_iff_ne]
  rintro rfl
  rw [List.map_append, List.map_cons, List.nodup_append] at hnodup
  exact hnodup.2.2 _ (List.mem_map_of_mem hentry) _ List.mem_cons_self rfl

variable [DecidableEq κ]

theorem any_name_iff (name : κ) (entries : List (κ × α)) :
    entries.any (·.1 = name) = (entries.lookup name).isSome := by
  rw [Bool.eq_iff_iff, ← mem_names_iff, List.any_eq_true, List.mem_map]
  simp only [decide_eq_true_eq]

/-- Entries that are told apart by their names are all kept or all removed. -/
theorem lookup_filter (keep : κ → Bool) (entries : List (κ × α)) (name : κ) :
    (entries.filter fun e => keep e.1).lookup name = if keep name = true then entries.lookup name else none := by
  induction entries with
  | nil => simp
  | cons entry rest ih =>
      obtain ⟨key, value⟩ := entry
      rw [List.filter_cons, lookup_cons_eq]
      by_cases hkey : keep key = true
      · rw [if_pos hkey, lookup_cons_eq, ih]
        by_cases hname : name = key
        · subst hname
          rw [if_pos rfl, if_pos rfl, if_pos hkey]
        · rw [if_neg hname, if_neg hname]
      · rw [if_neg hkey, ih]
        by_cases hname : name = key
        · subst hname
          rw [if_neg hkey, if_neg hkey]
        · rw [if_neg hname]

/-- What leaves the names alone is done to the value that is found. -/
theorem lookup_map_value {β : Type} (f : κ → α → β) (entries : List (κ × α)) (name : κ) :
    (entries.map fun (key, value) => (key, f key value)).lookup name = (entries.lookup name).map (f name) := by
  induction entries with
  | nil => rfl
  | cons entry rest ih =>
      obtain ⟨key, value⟩ := entry
      rw [List.map_cons, lookup_cons_eq, lookup_cons_eq, ih]
      by_cases hname : name = key
      · rw [if_pos hname, if_pos hname, Option.map_some, hname]
      · rw [if_neg hname, if_neg hname]

/-! ### Putting in -/

/-- A new name comes last, and a known one keeps its place. -/
theorem names_insertValue (key : κ) (value : α) (entries : List (κ × α)) :
    (insertValue key value entries).map (·.1) =
      if key ∈ entries.map (·.1) then entries.map (·.1) else entries.map (·.1) ++ [key] := by
  induction entries with
  | nil => rfl
  | cons entry rest ih =>
      obtain ⟨name, old⟩ := entry
      rw [insertValue, List.map_cons]
      by_cases hname : name = key
      · rw [if_pos hname, hname, if_pos List.mem_cons_self, List.map_cons]
      · rw [if_neg hname, List.map_cons, ih]
        by_cases hkey : key ∈ rest.map (·.1)
        · rw [if_pos hkey, if_pos (List.mem_cons_of_mem _ hkey)]
        · rw [if_neg hkey, if_neg (List.not_mem_cons_of_ne_of_not_mem (Ne.symm hname) hkey), List.cons_append]

theorem insertValue_of_lookup (h : entries.lookup key = none) (value : α) :
    insertValue key value entries = entries ++ [(key, value)] := by
  induction entries with
  | nil => rfl
  | cons entry rest ih =>
      obtain ⟨k, v⟩ := entry
      rw [lookup_cons_eq] at h
      by_cases hkey : key = k
      · rw [if_pos hkey] at h
        cases h
      · rw [if_neg hkey] at h
        rw [insertValue, if_neg (Ne.symm hkey), ih h, List.cons_append]

end Entries

/-! ### Names that come more than once -/

section Names

variable {α : Type} [BEq α] [LawfulBEq α] (l : List α)

theorem eraseDups_concat (a : α) : (l ++ [a]).eraseDups = if a ∈ l then l.eraseDups else l.eraseDups ++ [a] := by
  rw [List.eraseDups_append, List.removeAll]
  by_cases h : a ∈ l
  · simp [h]
  · simp [h, List.eraseDups_cons]

theorem nodup_eraseDups : l.eraseDups.Nodup := by
  induction l using List.reverseRecOn with
  | nil => exact List.nodup_nil
  | append_singleton l a ih =>
      rw [eraseDups_concat]
      by_cases h : a ∈ l
      · rwa [if_pos h]
      · rw [if_neg h]
        exact List.nodup_append.2 ⟨ih, by simp, by
          rintro b hb _ hc rfl
          rw [List.mem_singleton] at hc
          exact h (hc ▸ List.mem_eraseDups.1 hb)⟩

theorem eraseDups_filter (p : α → Bool) : (l.filter p).eraseDups = l.eraseDups.filter p := by
  induction l using List.reverseRecOn with
  | nil => rfl
  | append_singleton l a ih =>
      rw [List.filter_append, eraseDups_concat]
      by_cases hp : p a = true
      · rw [List.filter_cons_of_pos hp, List.filter_nil, eraseDups_concat, ih]
        by_cases hmem : a ∈ l
        · rw [if_pos hmem, if_pos (List.mem_filter.2 ⟨hmem, hp⟩)]
        · rw [if_neg hmem, if_neg fun h => hmem (List.mem_filter.1 h).1, List.filter_append,
            List.filter_cons_of_pos hp, List.filter_nil]
      · rw [List.filter_cons_of_neg hp, List.filter_nil, List.append_nil, ih]
        split
        · rfl
        · rw [List.filter_append, List.filter_cons_of_neg hp, List.filter_nil, List.append_nil]

end Names

/-! ### One after another -/

section Filling

variable {κ α β : Type} [DecidableEq κ] [BEq κ] [LawfulBEq κ] (key : β → κ) (value : β → α) {l : List β}

/-- A search from the end finds the last one. -/
theorem find?_reverse_eq_some_iff {p : β → Bool} {x : β} :
    l.reverse.find? p = some x ↔ p x = true ∧ ∃ before after, l = before ++ x :: after ∧ ∀ y ∈ after, p y = false := by
  rw [List.find?_eq_some_iff_append]
  refine and_congr_right fun _ => ⟨?_, ?_⟩
  · rintro ⟨after, before, hsplit, hafter⟩
    refine ⟨before.reverse, after.reverse, ?_, fun y hy => ?_⟩
    · rw [← List.reverse_reverse l, hsplit]
      simp
    · simpa using hafter y (List.mem_reverse.1 hy)
  · rintro ⟨before, after, rfl, hafter⟩
    refine ⟨after.reverse, before.reverse, by simp, fun y hy => ?_⟩
    rw [hafter y (List.mem_reverse.1 hy)]
    rfl

theorem names_insertValue_of_eraseDups {entries : List (κ × α)} {names : List κ}
    (h : entries.map (·.1) = names.eraseDups) (key : κ) (value : α) :
    (insertValue key value entries).map (·.1) = (names ++ [key]).eraseDups := by
  rw [names_insertValue, eraseDups_concat, h]
  simp only [List.mem_eraseDups]

/-- Each name stands where it came first. -/
theorem names_foldl_insertValue (l : List β) :
    (l.foldl (fun es x => insertValue (key x) (value x) es) []).map (·.1) = (l.map key).eraseDups := by
  induction l using List.reverseRecOn with
  | nil => rfl
  | append_singleton l x ih =>
      rw [List.foldl_append, List.map_append]
      exact names_insertValue_of_eraseDups ih (key x) (value x)

/-- What is put in first is what is found only if nothing of its name comes later. -/
theorem lookup_foldl_insertValue (l : List β) (entries : List (κ × α)) (name : κ) :
    (l.foldl (fun es x => insertValue (key x) (value x) es) entries).lookup name =
      ((l.reverse.find? (key · == name)).map value).or (entries.lookup name) := by
  -- The list is taken from its front, where the first one joins the entries that the others are put into.
  induction l generalizing entries with
  | nil => rfl
  | cons x l ih =>
      have hlast : (l.reverse ++ [x]).find? (key · == name) =
          (l.reverse.find? (key · == name)).or (if name = key x then some x else none) := by
        rw [List.find?_append]
        by_cases hname : name = key x
        · simp [hname]
        · simp [hname, Ne.symm hname]
      rw [List.foldl_cons, ih, lookup_insertValue, List.reverse_cons, hlast, Option.map_or, Option.or_assoc]
      by_cases hname : name = key x
      · rw [if_pos hname, if_pos hname, Option.map_some, Option.some_or]
      · rw [if_neg hname, if_neg hname, Option.map_none, Option.none_or]

end Filling

end Playbook
