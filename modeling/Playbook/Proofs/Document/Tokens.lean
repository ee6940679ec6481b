import Playbook.Document.Flag
import Playbook.Proofs.Text.Lines
/-!
# Where tokens stand

A scan takes each token out of the text at the place where it stands, one behind the other. Grouping the tokens to
flags drops some of them, but neither changes one nor their order.
-/

namespace Playbook

open Text

namespace Token

/-! ### The scan -/

/-- What is left in front of the first occurrence of an element begins with it. -/
theorem dropWhile_ne_of_mem {α : Type} [DecidableEq α] {a : α} {xs : List α} (h : a ∈ xs) :
    xs.dropWhile (· ≠ a) = a :: (xs.dropWhile (· ≠ a)).tail := by
  induction xs with
  | nil => cases h
  | cons x xs ih =>
      by_cases hx : x = a
      · simp [hx]
      · rw [List.dropWhile_cons_of_pos (by simpa using hx)]
        exact ih (List.mem_of_ne_of_mem (Ne.symm hx) h)

/-- A text that begins with a character that is not blank is its first token and what follows that. -/
theorem source_next (start : Nat) (c : Char) (cs : List Char) :
    (next start c cs).1.source ++ (next start c cs).2 = c :: cs := by
  unfold next
  split
  · rename_i hquoted
    have hrest := dropWhile_ne_of_mem hquoted.2
    rw [hquoted.1]
    simp only [source, if_true, List.cons_append, List.append_assoc, List.nil_append]
    rw [← hrest, List.takeWhile_append_dropWhile]
  · simp [source]

theorem length_source_next (start : Nat) (c : Char) (cs : List Char) :
    (next start c cs).1.source.length = (next start c cs).1.length := by
  unfold next
  split <;> simp [source]

theorem start_next (start : Nat) (c : Char) (cs : List Char) : (next start c cs).1.start = start := by
  unfold next
  split <;> rfl

theorem length_next_pos (start : Nat) (c : Char) (cs : List Char) : 0 < (next start c cs).1.length := by
  unfold next
  split <;> simp

/-- The token stands in a text whose first character has the place `start`. -/
structure StandsIn (t : Token) (start : Nat) (cs : List Char) : Prop where
  start_le : start ≤ t.start
  source : t.source <+: cs.drop (t.start - start)
  length : t.source.length = t.length
  pos : 0 < t.length

/-- A token of what is left of a text stands in the text. -/
theorem StandsIn.behind {t : Token} {start : Nat} {cs : List Char} (ds : List Char)
    (h : t.StandsIn (start + ds.length) cs) : t.StandsIn start (ds ++ cs) := by
  obtain ⟨hstart, hsource, hlength, hpos⟩ := h
  refine ⟨by omega, ?_, hlength, hpos⟩
  have hplace : t.start - start = ds.length + (t.start - (start + ds.length)) := by omega
  rw [hplace, ← List.drop_drop, List.drop_left]
  exact hsource

theorem scanFrom_nil (start : Nat) : scanFrom start [] = [] := by rw [scanFrom.eq_def]

theorem scanFrom_of_blank {c : Char} (hc : isBlankChar c = true) (start : Nat) (cs : List Char) :
    scanFrom start (c :: cs) = scanFrom (start + 1) cs := by
  rw [scanFrom.eq_def]
  exact if_pos hc

theorem scanFrom_of_visible {c : Char} (hc : ¬isBlankChar c = true) (start : Nat) (cs : List Char) :
    scanFrom start (c :: cs) =
      (next start c cs).1 :: scanFrom (start + (next start c cs).1.length) (next start c cs).2 := by
  rw [scanFrom.eq_def]
  exact if_neg hc

theorem standsIn_of_mem_scanFrom {start : Nat} {cs : List Char} {t : Token} (h : t ∈ scanFrom start cs) :
    t.StandsIn start cs := by
  induction start, cs using scanFrom.induct with
  | case1 start =>
      rw [scanFrom_nil] at h
      cases h
  | case2 start c cs hblank ih =>
      rw [scanFrom_of_blank hblank] at h
      exact (ih h).behind [c]
  | case3 start c cs hblank ih =>
      rw [scanFrom_of_visible hblank] at h
      have hsource := source_next start c cs
      rcases List.mem_cons.1 h with rfl | h
      · refine ⟨Nat.le_of_eq (start_next start c cs).symm, ?_, length_source_next start c cs,
          length_next_pos start c cs⟩
        rw [start_next, Nat.sub_self, List.drop_zero]
        exact ⟨_, hsource⟩
      · rw [← length_source_next] at ih h
        rw [← hsource]
        exact (ih h).behind _

theorem scanFrom_pairwise (start : Nat) (cs : List Char) :
    (scanFrom start cs).Pairwise fun t u => t.start + t.length ≤ u.start := by
  induction start, cs using scanFrom.induct with
  | case1 start =>
      rw [scanFrom_nil]
      exact .nil
  | case2 start c cs hblank ih =>
      rw [scanFrom_of_blank hblank]
      exact ih
  | case3 start c cs hblank ih =>
      rw [scanFrom_of_visible hblank]
      refine List.pairwise_cons.2 ⟨fun u hu => ?_, ih⟩
      rw [start_next]
      exact (standsIn_of_mem_scanFrom hu).start_le

/-! ### Tokens read back -/

section Scan

variable {cs rest : List Char}

theorem scanFrom_margin (hcs : isBlank cs = true) (rest : List Char) (start : Nat) :
    scanFrom start (cs ++ rest) = scanFrom (start + cs.length) rest := by
  induction cs generalizing start with
  | nil => rfl
  | cons c cs ih =>
      obtain ⟨hc, hcs⟩ := (Bool.and_eq_true _ _).mp hcs
      rw [List.cons_append, scanFrom_of_blank hc, ih hcs, List.length_cons, Nat.add_assoc, Nat.add_comm 1]

theorem scanFrom_quoted (hcs : '"' ∉ cs) (rest : List Char) (start : Nat) :
    scanFrom start ('"' :: cs ++ '"' :: rest) =
      ⟨cs, start, cs.length + 2, true⟩ :: scanFrom (start + (cs.length + 2)) rest := by
  have hvalue : ∀ c ∈ cs, decide (c ≠ '"') = true := fun c hc => decide_eq_true (ne_of_mem_of_not_mem hc hcs)
  have hstop : ∀ c ∈ ('"' :: rest).head?, decide (c ≠ '"') = false := by simp
  obtain ⟨htake, hdrop⟩ := stretch_append hvalue hstop
  have hnext : next start '"' (cs ++ '"' :: rest) = (⟨cs, start, cs.length + 2, true⟩, rest) := by
    unfold next
    rw [if_pos ⟨rfl, by simp⟩]
    simp only [htake, hdrop, List.tail_cons]
  rw [List.cons_append, scanFrom_of_visible (by decide), hnext]

/-- Text without blanks, up to the end or to a blank. A quote at its beginning has no other one behind it. -/
theorem scanFrom_stretch (hcs : ∀ c ∈ cs, isBlankChar c = false) (hne : cs ≠ [])
    (hquote : cs.head? = some '"' → '"' ∉ cs.tail ++ rest) (hrest : ∀ c ∈ rest.head?, isBlankChar c = true)
    (start : Nat) : scanFrom start (cs ++ rest) = ⟨cs, start, cs.length, false⟩ :: scanFrom (start + cs.length) rest := by
  cases cs with
  | nil => exact absurd rfl hne
  | cons c cs =>
      obtain ⟨hc, hcs⟩ := List.forall_mem_cons.1 hcs
      have hvalue : ∀ c ∈ cs, (!isBlankChar c) = true := fun c hc => by rw [hcs c hc]; rfl
      have hstop : ∀ c ∈ rest.head?, (!isBlankChar c) = false := fun c hc => by rw [hrest c hc]; rfl
      obtain ⟨htake, hdrop⟩ := stretch_append hvalue hstop
      have hnext : next start c (cs ++ rest) = (⟨c :: cs, start, (c :: cs).length, false⟩, rest) := by
        unfold next
        rw [if_neg fun h => hquote (by rw [h.1]; rfl) h.2]
        simp only [htake, hdrop]
      rw [List.cons_append, scanFrom_of_visible (by simp [hc]), hnext]

theorem scanFrom_bare (hcs : ∀ c ∈ cs, isBlankChar c = false) (hne : cs ≠ []) (hquote : cs.head? ≠ some '"')
    (hrest : ∀ c ∈ rest.head?, isBlankChar c = true) (start : Nat) :
    scanFrom start (cs ++ rest) = ⟨cs, start, cs.length, false⟩ :: scanFrom (start + cs.length) rest :=
  scanFrom_stretch hcs hne (fun h => absurd h hquote) hrest start

end Scan

/-! ### Flag names -/

theorem isNameChar_bounds {c : Char} (h : isNameChar c = true) :
    (0x41 ≤ c.toNat ∧ c.toNat ≤ 0x5a) ∨ (0x61 ≤ c.toNat ∧ c.toNat ≤ 0x7a) ∨ (0x30 ≤ c.toNat ∧ c.toNat ≤ 0x39) ∨
      c.toNat = 0x5f := by
  rcases (Bool.or_eq_true _ _).mp h with h | h
  · have hranges : (decide ('A'.val ≤ c.val ∧ c.val ≤ 'Z'.val) ||
        (decide ('a'.val ≤ c.val) && decide (c.val ≤ 'z'.val)) ||
        (decide ('0'.val ≤ c.val) && decide (c.val ≤ '9'.val))) = true := h
    simp only [Bool.or_eq_true, Bool.and_eq_true, decide_eq_true_eq, UInt32.le_iff_toNat_le] at hranges
    rcases hranges with (hupper | hlower) | hdigit
    · exact .inl hupper
    · exact .inr (.inl hlower)
    · exact .inr (.inr (.inl hdigit))
  · rw [beq_iff_eq.1 h]
    decide

theorem isBlankChar_of_isNameChar {c : Char} (h : isNameChar c = true) : isBlankChar c = false := by
  have hbounds := isNameChar_bounds h
  simp only [isBlankChar, Bool.or_eq_false_iff, Bool.and_eq_false_iff, decide_eq_false_iff_not, beq_eq_false_iff_ne]
  omega

theorem isNameChar_of_isNameStart {c : Char} (h : isNameStart c = true) : isNameChar c = true := by
  rcases (Bool.or_eq_true _ _).mp h with h | h
  · have halphanum : (c.isAlpha || c.isDigit) = true := by rw [h, Bool.true_or]
    exact (Bool.or_eq_true _ _).mpr (.inl halphanum)
  · exact (Bool.or_eq_true _ _).mpr (.inr h)

theorem isNameChar_of_isName {name : List Char} (h : isName name = true) : ∀ c ∈ name, isNameChar c = true := by
  cases name with
  | nil => cases h
  | cons c cs =>
      obtain ⟨hc, hcs⟩ := (Bool.and_eq_true _ _).mp h
      exact List.forall_mem_cons.2 ⟨isNameChar_of_isNameStart hc, List.all_eq_true.1 hcs⟩

theorem noBlank_of_isName {name : List Char} (h : isName name = true) : ∀ c ∈ name, isBlankChar c = false :=
  fun c hc => isBlankChar_of_isNameChar (isNameChar_of_isName h c hc)

theorem source_of_flagName? {t : Token} {name : List Char} (h : t.flagName? = some name) :
    t.source = '-' :: '-' :: name := by
  unfold flagName? at h
  split at h
  · rename_i cs hbare hvalue
    split at h
    · cases h
      simp [source, hbare, hvalue]
    · cases h
  · cases h

end Token

/-! ### Tokens of flags -/

namespace FlagTokens

/-- The head, if there is one, gives the flag its name. -/
def IsHeaded (f : FlagTokens) : Prop := ∀ t name, f.head = some (t, name) → t.flagName? = some name

theorem split_tokens (ts : List Token) : (split ts).1 ++ (split ts).2.flatMap tokens = ts := by
  induction ts with
  | nil => rfl
  | cons t ts ih =>
      rw [split]
      cases hname : t.flagName? with
      | some name =>
          simp only [List.flatMap_cons, tokens, Option.map_some, Option.toList_some, List.cons_append, List.nil_append]
          rw [ih]
      | none =>
          simp only [List.cons_append]
          rw [ih]

theorem split_values {ts : List Token} (hts : ∀ t ∈ ts, t.flagName? = none) (us : List Token) :
    split (ts ++ us) = (ts ++ (split us).1, (split us).2) := by
  induction ts with
  | nil => rfl
  | cons t ts ih =>
      obtain ⟨ht, hts⟩ := List.forall_mem_cons.1 hts
      rw [List.cons_append, split, ht, ih hts]
      rfl

theorem split_flag {t : Token} {name : List Char} (ht : t.flagName? = some name) {ts : List Token}
    (hts : ∀ t ∈ ts, t.flagName? = none) (us : List Token) :
    split (t :: (ts ++ us)) = ([], ⟨some (t, name), ts ++ (split us).1⟩ :: (split us).2) := by
  rw [split, ht, split_values hts]

theorem isHeaded_of_mem_split {ts : List Token} {f : FlagTokens} (h : f ∈ (split ts).2) : f.IsHeaded := by
  induction ts with
  | nil => cases h
  | cons t ts ih =>
      rw [split] at h
      cases hname : t.flagName? with
      | some name =>
          simp only [hname] at h
          rcases List.mem_cons.1 h with rfl | h
          · intro u n hhead
            cases hhead
            exact hname
          · exact ih h
      | none =>
          simp only [hname] at h
          exact ih h

theorem named_tokens_sublist (ts : List Token) : ((named ts).flatMap tokens).Sublist ts := by
  conv => rhs; rw [← split_tokens ts]
  exact List.sublist_append_right _ _

theorem ofText_tokens_sublist (cs : List Char) : ((ofText cs).flatMap tokens).Sublist (Token.scan cs) := by
  unfold ofText
  split
  · exact named_tokens_sublist _
  · exact List.nil_sublist _
  · split
    · exact List.nil_sublist _
    · simp [tokens]

theorem isHeaded_of_mem_ofText {cs : List Char} {f : FlagTokens} (h : f ∈ ofText cs) : f.IsHeaded := by
  unfold ofText at h
  split at h
  · exact isHeaded_of_mem_split h
  · cases h
  · split at h
    · cases h
    · rw [List.mem_singleton.1 h]
      intro t name hhead
      cases hhead

end FlagTokens

end Playbook
