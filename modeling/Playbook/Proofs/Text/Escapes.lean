import Playbook.Proofs.Text.Utf8
import Playbook.Proofs.Text.Wide
import Playbook.Text.JsonReader
/-!
# Texts in JSON

Every character of a text comes back from its escape, and so does half of a pair. No escape has a character in it that is
not printable ASCII, so that a written text stands on one line. Where two halves stand side by side that are a character
together, the reader takes them for this character.
-/

namespace Playbook.Json

open Text
open CodePoint (char half ofNumber)
open WideString (ofChars ofChars_cons ofChars_append joined pair?)

/-! ### Escapes -/

def IsPrintableAscii (c : Char) : Prop := 0x20 ≤ c.toNat ∧ c.toNat < 0x7f

instance (c : Char) : Decidable (IsPrintableAscii c) :=
  inferInstanceAs (Decidable (0x20 ≤ c.toNat ∧ c.toNat < 0x7f))

theorem hexValue?_digitChar : ∀ d < 16, Number.hexValue? (Nat.digitChar d) = some d := by decide

theorem isPrintableAscii_digitChar : ∀ d < 16, IsPrintableAscii (Nat.digitChar d) := by decide

theorem isPrintableAscii_of_mem_hexDigits {width n : Nat} {c : Char} (h : c ∈ hexDigits width n) :
    IsPrintableAscii c := by
  induction width generalizing n with
  | zero => cases h
  | succ width ih =>
      rw [hexDigits, List.mem_append, List.mem_singleton] at h
      rcases h with h | rfl
      · exact ih h
      · exact isPrintableAscii_digitChar _ (Nat.mod_lt _ (by decide))

/-- How a character is written: behind a backslash, as it is, or with the numbers of its units. -/
inductive Encoded (c : Char) : List Char → Prop
  | simple {e : Char} (hread : simpleEscape? e = some c) (hprintable : IsPrintableAscii e) (hunit : e ≠ 'u') :
      Encoded c ['\\', e]
  | plain (hprintable : IsPrintableAscii c) (hquote : c ≠ '"') (hbackslash : c ≠ '\\') : Encoded c [c]
  | unit (hsmall : c.toNat < 0x10000) : Encoded c (unitEscape c.toNat)
  | pair (hlarge : 0x10000 ≤ c.toNat) :
      Encoded c (unitEscape (0xd800 + (c.toNat - 0x10000) / 0x400) ++ unitEscape (0xdc00 + (c.toNat - 0x10000) % 0x400))

theorem encoded_encodeChar (c : Char) : Encoded c (encodeChar c) := by
  unfold encodeChar
  split
  · rename_i h
    rcases h with rfl | rfl
    · exact .simple rfl (by decide) (by decide)
    · exact .simple rfl (by decide) (by decide)
  rename_i hmark
  obtain ⟨hquote, hbackslash⟩ := not_or.1 hmark
  iterate 5
    split
    · rename_i h
      subst h
      exact .simple rfl (by decide) (by decide)
  split
  · rename_i hprintable
    exact .plain hprintable hquote hbackslash
  split
  · rename_i hsmall
    exact .unit hsmall
  · rename_i hlarge
    exact .pair (Nat.le_of_not_lt hlarge)

theorem isPrintableAscii_of_mem_unitEscape {n : Nat} {c : Char} (h : c ∈ unitEscape n) : IsPrintableAscii c := by
  rw [unitEscape, List.mem_cons, List.mem_cons] at h
  rcases h with rfl | rfl | h
  · decide
  · decide
  · exact isPrintableAscii_of_mem_hexDigits h

theorem isPrintableAscii_of_mem_encodePoint {p : CodePoint} {d : Char} (h : d ∈ encodePoint p) : IsPrintableAscii d := by
  cases p with
  | half i => exact isPrintableAscii_of_mem_unitEscape h
  | char c =>
      rw [encodePoint] at h
      have hencoded := encoded_encodeChar c
      generalize encodeChar c = cs at h hencoded
      cases hencoded with
      | simple _ hprintable _ =>
          rcases List.mem_cons.1 h with rfl | h
          · decide
          · rwa [List.mem_singleton.1 h]
      | plain hprintable _ _ => rwa [List.mem_singleton.1 h]
      | unit _ => exact isPrintableAscii_of_mem_unitEscape h
      | pair _ =>
          rcases List.mem_append.1 h with h | h
          · exact isPrintableAscii_of_mem_unitEscape h
          · exact isPrintableAscii_of_mem_unitEscape h

/-- A written text is printable ASCII from quote to quote, whatever the text is. -/
theorem isPrintableAscii_of_mem_encodeText {s : WideString} {d : Char} (h : d ∈ encodeText s) : IsPrintableAscii d := by
  rw [encodeText, List.cons_append, List.mem_cons, List.mem_append, List.mem_singleton, List.mem_flatMap] at h
  rcases h with rfl | ⟨p, -, hp⟩ | rfl
  · decide
  · exact isPrintableAscii_of_mem_encodePoint hp
  · decide

theorem encodePoint_ne_nil (p : CodePoint) : encodePoint p ≠ [] := by
  cases p with
  | half i => exact List.cons_ne_nil _ _
  | char c =>
      rw [encodePoint]
      have hencoded := encoded_encodeChar c
      generalize encodeChar c = cs at hencoded
      cases hencoded with
      | simple _ _ _ | plain _ _ _ | unit _ | pair _ => exact List.cons_ne_nil _ _

/-! ### Units -/

section Units

variable {high low n : Nat} {rest : WideString}

/-- Four digits are enough for a unit, and it is found again in front of anything. -/
theorem unit?_hexDigits (h : n < 0x10000) (hrest : rest ≠ []) :
    unit? (ofChars (hexDigits 4 n) ++ rest) = some (n, rest) := by
  obtain ⟨p, s, rfl⟩ := List.exists_cons_of_ne_nil hrest
  have hvalue (m : Nat) : hexValue? (char (Nat.digitChar (m % 16))) = some (m % 16) :=
    hexValue?_digitChar _ (Nat.mod_lt _ (by decide))
  have hsum : (n / 16 / 16 / 16 % 16 * 16 + n / 16 / 16 % 16) * 256 + n / 16 % 16 * 16 + n % 16 = n := by omega
  simp only [hexDigits, List.nil_append, List.cons_append, ofChars_cons, WideString.ofChars_nil, unit?, hvalue,
    Option.bind_eq_bind, Option.bind_some, Option.pure_def, hsum]

/-- Behind a first half the second half is found, and it is found nowhere else. -/
theorem lowUnit?_unitEscape (h : n < 0x10000) (hrest : rest ≠ []) :
    lowUnit? high (ofChars (unitEscape n) ++ rest) =
      if (0xd800 ≤ high ∧ high < 0xdc00) ∧ 0xdc00 ≤ n ∧ n < 0xe000 then some (n, rest) else none := by
  rw [unitEscape, ofChars_cons, ofChars_cons, List.cons_append, List.cons_append, lowUnit?, unit?_hexDigits h hrest]
  by_cases hfirst : 0xd800 ≤ high ∧ high < 0xdc00
  · simp only [hfirst, and_self, if_true, true_and, Option.filter, Bool.and_eq_true, decide_eq_true_eq]
  · rw [if_neg hfirst, if_neg fun h => hfirst h.1]

theorem lowUnit?_encodeChar (c : Char) (hrest : rest ≠ []) : lowUnit? high (ofChars (encodeChar c) ++ rest) = none := by
  have hbounds : c.toNat < 0xd800 ∨ 0xdfff < c.toNat ∧ c.toNat < 0x110000 := val_range c
  have hencoded := encoded_encodeChar c
  generalize encodeChar c = cs at hencoded
  cases hencoded with
  | @simple e _ _ hunit =>
      rw [ofChars_cons, ofChars_cons, List.cons_append, List.cons_append, lowUnit?]
      rintro _ heq
      cases heq
      exact hunit rfl
  | plain _ _ hbackslash =>
      rw [ofChars_cons, List.cons_append, lowUnit?]
      rintro _ heq
      cases heq
      exact hbackslash rfl
  | unit hsmall => rw [lowUnit?_unitEscape hsmall hrest, if_neg (by omega)]
  | pair hlarge =>
      rw [ofChars_append, List.append_assoc, lowUnit?_unitEscape (by omega) (by simp [hrest]), if_neg (by omega)]

theorem ofNumber_toNat (c : Char) : ofNumber c.toNat = char c := by
  have hbounds : c.toNat < 0xd800 ∨ 0xdfff < c.toNat ∧ c.toNat < 0x110000 := val_range c
  rw [ofNumber, dif_neg (by omega), Char.ofNat_toNat]

theorem ofNumber_number_half (i : Fin 0x800) : ofNumber (half i).number = half i := by
  have hi : 0xd800 + i.val - 0xd800 < 0x800 ∧ 0xd800 ≤ 0xd800 + i.val := by omega
  rw [CodePoint.number, ofNumber, dif_pos hi]
  exact congrArg half (Fin.ext (Nat.add_sub_cancel_left _ _))

end Units

/-! ### Reading texts -/

section Texts

variable {opening rest read : WideString} {c : Char}

/-- Anything but the two marks and a control character stands for itself. -/
theorem readString_visible (hquote : c ≠ '"') (hbackslash : c ≠ '\\') (hvisible : ¬c.toNat < 0x20) (fuel : Nat) :
    readString opening (fuel + 1) (char c :: rest) read = readString opening fuel rest (char c :: read) := by
  rw [readString.eq_def]
  dsimp only
  rw [if_neg hquote, if_neg hvisible, if_pos hbackslash]

theorem readString_end (fuel : Nat) :
    readString opening (fuel + 1) (char '"' :: rest) read = .ok (read.reverse, rest) := by
  rw [readString.eq_def]
  dsimp only
  rw [if_pos rfl]

/-- Two units that belong together. -/
theorem readString_units {digits middle : WideString} {high low : Nat} (hhigh : unit? digits = some (high, middle))
    (hlow : lowUnit? high middle = some (low, rest)) (fuel : Nat) :
    readString opening (fuel + 1) (char '\\' :: char 'u' :: digits) read =
      readString opening fuel rest (ofNumber (0x10000 + (high - 0xd800) * 0x400 + (low - 0xdc00)) :: read) := by
  rw [readString, if_neg (by decide), if_neg (by decide), if_neg (by decide)]
  simp only [hhigh, hlow]

/-- A unit that stands alone. -/
theorem readString_unit {n : Nat} (hsmall : n < 0x10000) (hrest : rest ≠ []) (hlow : lowUnit? n rest = none) (fuel : Nat) :
    readString opening (fuel + 1) (ofChars (unitEscape n) ++ rest) read =
      readString opening fuel rest (ofNumber n :: read) := by
  rw [unitEscape, ofChars_cons, ofChars_cons, List.cons_append, List.cons_append, readString, if_neg (by decide),
    if_neg (by decide), if_neg (by decide)]
  simp only [unit?_hexDigits hsmall hrest, hlow]

/-- Two units that stand for a character beyond the basic plane. -/
theorem readString_pair {high low : Nat} (hhigh : 0xd800 ≤ high ∧ high < 0xdc00) (hlow : 0xdc00 ≤ low ∧ low < 0xe000)
    (hrest : rest ≠ []) (fuel : Nat) :
    readString opening (fuel + 1) (ofChars (unitEscape high) ++ (ofChars (unitEscape low) ++ rest)) read =
      readString opening fuel rest (ofNumber (0x10000 + (high - 0xd800) * 0x400 + (low - 0xdc00)) :: read) := by
  have hpair : lowUnit? high (ofChars (unitEscape low) ++ rest) = some (low, rest) := by
    rw [lowUnit?_unitEscape (by omega) hrest, if_pos ⟨hhigh, hlow⟩]
  rw [unitEscape, ofChars_cons, ofChars_cons, List.cons_append, List.cons_append]
  exact readString_units (unit?_hexDigits (by omega) (by simp [hrest])) hpair fuel

/-- A character comes back from the way it is written, with anything behind it that a string may hold. -/
theorem readString_encodeChar (c : Char) (hrest : rest ≠ []) (fuel : Nat) :
    readString opening (fuel + 1) (ofChars (encodeChar c) ++ rest) read =
      readString opening fuel rest (char c :: read) := by
  have hbounds : c.toNat < 0xd800 ∨ 0xdfff < c.toNat ∧ c.toNat < 0x110000 := val_range c
  have hencoded := encoded_encodeChar c
  generalize encodeChar c = cs at hencoded
  cases hencoded with
  | @simple e hread _ hunit =>
      rw [ofChars_cons, ofChars_cons, List.cons_append, List.cons_append, readString, if_neg (by decide),
        if_neg (by decide), if_neg (by decide)]
      · simp only [CodePoint.char?, Option.bind_some, hread]
        rfl
      · rintro ⟨⟩
        exact hunit rfl
  | plain hprintable hquote hbackslash =>
      exact readString_visible hquote hbackslash (Nat.not_lt.2 hprintable.1) fuel
  | unit hsmall =>
      rw [readString_unit hsmall hrest, ofNumber_toNat]
      unfold lowUnit?
      split
      · rw [if_neg (by omega)]
      · rfl
  | pair hlarge =>
      have hvalue : 0x10000 + (0xd800 + (c.toNat - 0x10000) / 0x400 - 0xd800) * 0x400 +
          (0xdc00 + (c.toNat - 0x10000) % 0x400 - 0xdc00) = c.toNat := by omega
      rw [ofChars_append, List.append_assoc, readString_pair (by omega) (by omega) hrest, hvalue, ofNumber_toNat]

/-- Half of a pair comes back, if the other half does not stand behind it. -/
theorem readString_half (i : Fin 0x800) (hrest : rest ≠ []) (hlow : lowUnit? (half i).number rest = none) (fuel : Nat) :
    readString opening (fuel + 1) (ofChars (encodePoint (half i)) ++ rest) read =
      readString opening fuel rest (half i :: read) := by
  rw [encodePoint, readString_unit (by rw [CodePoint.number]; omega) hrest hlow, ofNumber_number_half]
  exact nofun

/-- Two halves that are a character together are read as the character. -/
theorem readString_halves {a b : Fin 0x800} (hpair : pair? a b = some c) (hrest : rest ≠ []) (fuel : Nat) :
    readString opening (fuel + 1) (ofChars (encodePoint (half a)) ++ (ofChars (encodePoint (half b)) ++ rest)) read =
      readString opening fuel rest (char c :: read) := by
  rw [pair?] at hpair
  split at hpair
  · rename_i hhalves
    have hhigh : 0xd800 ≤ (half a).number ∧ (half a).number < 0xdc00 := by
      rw [CodePoint.number]
      omega
    have hlow : 0xdc00 ≤ (half b).number ∧ (half b).number < 0xe000 := by
      rw [CodePoint.number]
      omega
    have hnumber : 0x10000 + ((half a).number - 0xd800) * 0x400 + ((half b).number - 0xdc00) =
        0x10000 + a * 0x400 + (b - 0x400) := by
      simp only [CodePoint.number]
      omega
    have hvalue : ofNumber (0x10000 + a * 0x400 + (b - 0x400)) = char c := by
      rw [ofNumber, dif_neg (by omega)]
      exact congrArg char (Option.some.inj hpair)
    rw [encodePoint, encodePoint, readString_pair hhigh hlow hrest, hnumber, hvalue]
    · exact nofun
    · exact nofun
  · cases hpair

/-- Behind half of a pair nothing is taken together with it that is no half. -/
theorem lowUnit?_flatMap {a : Fin 0x800} {s : WideString} (h : ∀ b s', s = half b :: s' → pair? a b = none)
    (tail : WideString) :
    lowUnit? (half a).number (ofChars (s.flatMap encodePoint) ++ char '"' :: tail) = none := by
  cases s with
  | nil => rfl
  | cons p s =>
      rw [List.flatMap_cons, ofChars_append, List.append_assoc]
      cases p with
      | char c => exact lowUnit?_encodeChar c (by simp)
      | half b =>
          have hpair := h b s rfl
          rw [pair?] at hpair
          rw [encodePoint, lowUnit?_unitEscape (by rw [CodePoint.number]; omega) (by simp), if_neg]
          · intro hlow
            rw [if_pos (by simp only [CodePoint.number] at hlow; omega)] at hpair
            cases hpair
          · exact nofun

/-- A text is read as it was written, but for the halves that stand together. The induction follows the halves. -/
theorem readString_flatMap (s : WideString) {fuel : Nat} (hfuel : s.length ≤ fuel) :
    readString opening (fuel + 1) (ofChars (s.flatMap encodePoint) ++ char '"' :: rest) read =
      .ok (read.reverse ++ joined s, rest) := by
  fun_induction joined s generalizing fuel read with
  | case1 a b s c hpair ih =>
      obtain ⟨fuel, rfl⟩ := Nat.exists_eq_add_one_of_ne_zero (Nat.ne_zero_of_lt hfuel)
      have hless : s.length ≤ fuel := Nat.le_of_succ_le (Nat.le_of_succ_le_succ hfuel)
      rw [List.flatMap_cons, List.flatMap_cons, ofChars_append, ofChars_append, List.append_assoc, List.append_assoc,
        readString_halves hpair (by simp), ih hless, List.reverse_cons, List.append_assoc, List.singleton_append]
  | case2 a b s hpair ih =>
      obtain ⟨fuel, rfl⟩ := Nat.exists_eq_add_one_of_ne_zero (Nat.ne_zero_of_lt hfuel)
      have halone : ∀ b' s', half b :: s = half b' :: s' → pair? a b' = none := by
        rintro _ _ ⟨⟩
        exact hpair
      rw [List.flatMap_cons, ofChars_append, List.append_assoc, readString_half a (by simp) (lowUnit?_flatMap halone rest),
        ih (Nat.le_of_succ_le_succ hfuel), List.reverse_cons, List.append_assoc, List.singleton_append]
  | case3 p s hother ih =>
      obtain ⟨fuel, rfl⟩ := Nat.exists_eq_add_one_of_ne_zero (Nat.ne_zero_of_lt hfuel)
      have hpoint : readString opening (fuel + 2) (ofChars (encodePoint p) ++
          (ofChars (s.flatMap encodePoint) ++ char '"' :: rest)) read =
            readString opening (fuel + 1) (ofChars (s.flatMap encodePoint) ++ char '"' :: rest) (p :: read) := by
        cases p with
        | char c => exact readString_encodeChar c (by simp) _
        | half a =>
            refine readString_half a (by simp) (lowUnit?_flatMap (fun b s' hs => ?_) rest) _
            exact absurd hs (hother a b s' rfl)
      rw [List.flatMap_cons, ofChars_append, List.append_assoc, hpoint, ih (Nat.le_of_succ_le_succ hfuel),
        List.reverse_cons, List.append_assoc, List.singleton_append]
  | case4 => rw [List.flatMap_nil, WideString.ofChars_nil, List.nil_append, readString_end, List.append_nil]

theorem length_le_flatMap_encodePoint (s : WideString) : s.length ≤ (s.flatMap encodePoint).length := by
  induction s with
  | nil => exact Nat.le_refl _
  | cons p s ih =>
      have hpos := List.length_pos_iff.2 (encodePoint_ne_nil p)
      rw [List.flatMap_cons, List.length_append, List.length_cons]
      omega

/-- The fuel that a text is read with is more than enough. -/
theorem readString_encodeText (s : WideString) :
    readString opening ((ofChars (s.flatMap encodePoint) ++ char '"' :: rest).length + 1)
      (ofChars (s.flatMap encodePoint) ++ char '"' :: rest) [] = .ok (joined s, rest) := by
  refine readString_flatMap s ?_
  have hlength := length_le_flatMap_encodePoint s
  rw [List.length_append, ofChars, List.length_map]
  omega

end Texts

end Playbook.Json
