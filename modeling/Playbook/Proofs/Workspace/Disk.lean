import Playbook.Workspace.Disk
/-!
# What operations leave on a disk

A write or a removal concerns one location. Making directories only adds them where nothing was, also when it stops half
way, so whatever was on the disk stays. A path leads over directories only; it therefore ends where it did before as long
as no directory has become a file, and a file that was just written is read where it was written.
-/

namespace Playbook.Disk

open Text (Bytes)

variable {d d' d'' : Disk} {cwd loc other start : Location} {p : Path} {bytes : Bytes} {parts : List Bytes}

/-! ### One location -/

theorem find?_root (d : Disk) : d.find? [] = some .directory := if_pos rfl

theorem find?_of_ne (d : Disk) (h : loc ≠ []) : d.find? loc = (d.entries.find? (·.1 = loc)).map (·.2) := if_neg h

theorem find?_remove (d : Disk) (hloc : loc ≠ []) (other : Location) :
    (d.remove loc).find? other = if other = loc then none else d.find? other := by
  by_cases hroot : other = []
  · rw [hroot, find?_root, find?_root, if_neg hloc.symm]
  rw [find?_of_ne _ hroot, find?_of_ne _ hroot, remove, List.find?_filter]
  by_cases hother : other = loc
  · rw [if_pos hother, List.find?_eq_none.2 fun a _ => by simp [hother], Option.map_none]
  · rw [if_neg hother]
    congr 2
    funext a
    by_cases ha : a.1 = other
    · simp [ha, hother]
    · simp [ha]

theorem find?_put (d : Disk) (hloc : loc ≠ []) (e : Entry) (other : Location) :
    (d.put loc e).find? other = if other = loc then some e else d.find? other := by
  by_cases hroot : other = []
  · rw [hroot, find?_root, find?_root, if_neg hloc.symm]
  have hput : (d.put loc e).find? other = ((d.remove loc).find? other).or (if other = loc then some e else none) := by
    rw [find?_of_ne _ hroot, find?_of_ne _ hroot, put, remove, List.find?_append, Option.map_or]
    congr 1
    by_cases hother : other = loc
    · simp [hother]
    · simp [hother, Ne.symm hother]
  rw [hput, find?_remove d hloc]
  by_cases hother : other = loc
  · rw [if_pos hother, if_pos hother, if_pos hother, Option.none_or]
  · rw [if_neg hother, if_neg hother, if_neg hother, Option.or_none]

theorem ne_nil_of_not_directory (h : d.isDirectory loc = false) : loc ≠ [] := by
  rintro rfl
  rw [isDirectory, find?_root] at h
  cases h

/-! ### Where a path leads -/

/-- Everything on the way is a directory before and after. -/
theorem locate_of_directories (h : ∀ loc, d.find? loc = some .directory → d'.find? loc = some .directory)
    (hlocate : d.locate start parts = .ok loc) : d'.locate start parts = .ok loc := by
  induction parts generalizing start with
  | nil => exact hlocate
  | cons part parts ih =>
      rw [locate] at hlocate ⊢
      cases hfind : d.find? start with
      | none => simp [hfind] at hlocate
      | some entry =>
          cases entry with
          | file bytes => simp [hfind] at hlocate
          | directory =>
              rw [hfind] at hlocate
              rw [h start hfind]
              dsimp only at hlocate ⊢
              split
              · rename_i hup
                rw [if_pos hup] at hlocate
                exact ih hlocate
              · rename_i hdown
                rw [if_neg hdown] at hlocate
                split
                · rename_i hlong
                  rw [if_pos hlong] at hlocate
                  cases hlocate
                · rename_i hshort
                  rw [if_neg hshort] at hlocate
                  exact ih hlocate

theorem locatePath_of_directories (h : ∀ loc, d.find? loc = some .directory → d'.find? loc = some .directory)
    (hlocate : d.locatePath cwd p = .ok loc) : d'.locatePath cwd p = .ok loc := by
  unfold locatePath at hlocate ⊢
  split
  · rename_i hlong
    rw [if_pos hlong] at hlocate
    cases hlocate
  · rename_i hshort
    rw [if_neg hshort] at hlocate
    cases hway : d.locate (if p.isAbsolute then [] else cwd) p.names with
    | error fault =>
        rw [hway] at hlocate
        cases hlocate
    | ok loc' =>
        rw [hway] at hlocate
        cases hlocate
        rw [locate_of_directories h hway]
        rfl

/-! ### Files -/

theorem writeBytes_eq_ok (h : d.writeBytes cwd p bytes = .ok d') :
    ∃ loc, d.locatePath cwd p = .ok loc ∧ d.isDirectory loc = false ∧ d' = d.put loc (.file bytes) := by
  unfold writeBytes at h
  cases hlocate : d.locatePath cwd p with
  | error e =>
      rw [hlocate] at h
      cases h
  | ok loc =>
      rw [hlocate] at h
      change (if d.isDirectory loc = true then _ else _) = _ at h
      split at h
      · cases h
      · rename_i hfile
        cases h
        exact ⟨loc, rfl, Bool.eq_false_iff.2 hfile, rfl⟩

/-- What was written is read again where it was written, and nothing is different elsewhere. -/
theorem readBytes_of_writeBytes (h : d.writeBytes cwd p bytes = .ok d') :
    ∃ loc, d'.locatePath cwd p = .ok loc ∧ d'.find? loc = some (.file bytes) ∧ d'.readBytes cwd p = .ok bytes ∧
      ∀ other, other ≠ loc → d'.find? other = d.find? other := by
  obtain ⟨loc, hlocate, hfile, rfl⟩ := writeBytes_eq_ok h
  have hfind := d.find?_put (ne_nil_of_not_directory hfile) (.file bytes)
  have hthere : (d.put loc (.file bytes)).find? loc = some (.file bytes) := by rw [hfind, if_pos rfl]
  have hlocate' : (d.put loc (.file bytes)).locatePath cwd p = .ok loc := by
    refine locatePath_of_directories (fun other hother => ?_) hlocate
    rw [hfind, if_neg, hother]
    rintro rfl
    rw [isDirectory, hother] at hfile
    cases hfile
  refine ⟨loc, hlocate', hthere, ?_, fun other hother => by rw [hfind, if_neg hother]⟩
  simp only [readBytes, hlocate', hthere, bind, Except.bind]

/-! ### Directories -/

/-- Nothing is different but that directories are where nothing was. -/
def Grows (d d' : Disk) : Prop :=
  ∀ loc, d'.find? loc = d.find? loc ∨ d.find? loc = none ∧ d'.find? loc = some .directory

theorem Grows.refl (d : Disk) : d.Grows d := fun _ => .inl rfl

theorem Grows.trans (h : d.Grows d') (h' : d'.Grows d'') : d.Grows d'' := by
  intro loc
  rcases h loc with hsame | ⟨hnone, hmade⟩
  · rcases h' loc with hsame' | ⟨hnone', hmade'⟩
    · exact .inl (hsame'.trans hsame)
    · exact .inr ⟨hsame ▸ hnone', hmade'⟩
  · rcases h' loc with hsame' | ⟨hnone', -⟩
    · exact .inr ⟨hnone, hsame'.trans hmade⟩
    · rw [hmade] at hnone'
      cases hnone'

theorem Grows.find?_file (h : d.Grows d') : d'.find? loc = some (.file bytes) ↔ d.find? loc = some (.file bytes) := by
  rcases h loc with hsame | ⟨hnone, hmade⟩
  · rw [hsame]
  · rw [hnone, hmade]
    simp

theorem makeDirectory_grows (h : d.makeDirectory cwd p = .ok d') : d.Grows d' := by
  unfold makeDirectory at h
  cases hlocate : d.locatePath cwd p with
  | error e =>
      rw [hlocate] at h
      cases h
  | ok loc =>
      rw [hlocate] at h
      change (if (d.find? loc).isSome = true then _ else _) = _ at h
      split at h
      · cases h
      · rename_i hfree
        cases h
        have hnone : d.find? loc = none := Option.not_isSome_iff_eq_none.1 hfree
        have hloc : loc ≠ [] := by
          rintro rfl
          rw [find?_root] at hnone
          cases hnone
        intro other
        rw [d.find?_put hloc]
        by_cases hother : other = loc
        · rw [if_pos hother, hother]
          exact .inr ⟨hnone, rfl⟩
        · rw [if_neg hother]
          exact .inl rfl

/-- Also what was made before a failure is no more than directories. -/
theorem ensureDirectory_grows (d : Disk) (cwd : Location) (p : Path) (depth : Nat) :
    d.Grows (d.ensureDirectory cwd p depth).1 := by
  induction depth generalizing p with
  | zero => exact .refl d
  | succ depth ih =>
      rw [ensureDirectory]
      cases hmake : d.makeDirectory cwd p with
      | ok made => exact makeDirectory_grows hmake
      | error e =>
          dsimp only
          split
          · split
            · exact .refl d
            · have habove := ih p.parent
              rcases hensure : d.ensureDirectory cwd p.parent depth with ⟨above, e' | ⟨⟩⟩
              · rw [hensure] at habove
                exact habove
              · rw [hensure] at habove
                dsimp only
                cases hmake' : above.makeDirectory cwd p with
                | ok made => exact habove.trans (makeDirectory_grows hmake')
                | error e' => exact habove
          · exact .refl d

end Playbook.Disk
