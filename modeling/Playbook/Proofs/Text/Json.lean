import Playbook.Proofs.Document.Entries
import Playbook.Proofs.Text.Escapes
/-!
# JSON written and read

A value that is written down is read as the same value, but for halves in its texts that are a character together. Numbers
with a fraction are left out, and so are whole numbers of too many digits and objects with a name that stands twice, of
which only the last value would be read. The reader has to go as deep as lists and objects stand in one another.
-/

namespace Playbook.Json

open Text
open CodePoint (char)
open WideString (ofChars ofChars_cons)

/-! ### Joining -/

mutual

/-- The value as it is read: the halves in its texts that stand together are put together. -/
def joined : Json → Json
  | null => null
  | bool b => bool b
  | int n => int n
  | float x => float x
  | str s => str s.joined
  | arr items => arr (joinedItems items)
  | obj fields => obj (joinedFields fields)

def joinedItems : List Json → List Json
  | [] => []
  | v :: vs => joined v :: joinedItems vs

def joinedFields : Fields → Fields
  | [] => []
  | (name, v) :: fields => (name.joined, joined v) :: joinedFields fields

end

def joinedField (f : WideString × Json) : WideString × Json := (f.1.joined, f.2.joined)

theorem joinedItems_eq_map (items : List Json) : joinedItems items = items.map joined := by
  induction items with
  | nil => rfl
  | cons v vs ih => rw [joinedItems, ih, List.map_cons]

theorem joinedFields_eq_map (fields : Fields) : joinedFields fields = fields.map joinedField := by
  induction fields with
  | nil => rfl
  | cons f fields ih =>
      rw [joinedFields, ih]
      rfl

/-! ### Numbers -/

theorem natOfDigits_toDigits (n : Nat) : Number.natOfDigits (Nat.toDigits 10 n) = n := by
  have hsame (cs : List Char) : Number.natOfDigits cs = Nat.ofDigitChars 10 cs 0 := by
    unfold Number.natOfDigits Nat.ofDigitChars
    congr 1
    funext m c
    rw [Nat.mul_comm]
    rfl
  rw [hsame, Nat.ofDigitChars_toDigits (by decide) (by decide)]

/-- Only nought begins with a nought. -/
theorem head_toDigits {n : Nat} (hpos : 0 < n) : ∃ c cs, Nat.toDigits 10 n = c :: cs ∧ c ≠ '0' := by
  induction n using Nat.strongRecOn with
  | ind n ih =>
      by_cases hsmall : n < 10
      · have hdigit : ∀ d < 10, 0 < d → Nat.digitChar d ≠ '0' := by decide
        exact ⟨_, [], Nat.toDigits_of_lt_base hsmall, hdigit n hsmall hpos⟩
      · obtain ⟨c, cs, hdigits, hc⟩ := ih (n / 10) (by omega) (by omega)
        exact ⟨c, cs ++ [_], by rw [Nat.toDigits_of_base_le (by decide) (Nat.le_of_not_lt hsmall), hdigits]; rfl, hc⟩

/-- Nothing by which a number would go on. -/
def EndsNumber (rest : List Char) : Prop := ∀ c ∈ rest.head?, c.isDigit = false ∧ c ≠ '.' ∧ c ≠ 'e' ∧ c ≠ 'E'

theorem fraction?_eq_none {rest : List Char} (h : EndsNumber rest) : fraction? rest = none := by
  unfold fraction?
  split
  · exact absurd rfl (h '.' rfl).2.1
  · rfl

theorem exponent?_eq_none {rest : List Char} (h : EndsNumber rest) : Number.exponent? rest = none := by
  unfold Number.exponent?
  split
  · rename_i e cs
    obtain ⟨-, -, he, hE⟩ := h e rfl
    rw [if_neg (not_or.2 ⟨he, hE⟩)]
  · rfl

/-- A number ends behind its digits, and what it reads as is settled by its sign. -/
theorem readNumber?_toDigits (negative : Bool) {n : Nat} (hlimit : (Nat.toDigits 10 n).length ≤ Number.digitLimit)
    {rest : List Char} (h : EndsNumber rest) :
    readNumber? negative (Nat.toDigits 10 n ++ rest) = some (.ok (.int (Number.signed negative n)), rest) := by
  have hvalue := natOfDigits_toDigits n
  rcases Nat.eq_zero_or_pos n with rfl | hpos
  · have hzero : Nat.toDigits 10 0 = ['0'] := rfl
    rw [hzero] at hvalue ⊢
    rw [List.singleton_append, readNumber?]
    simp [fraction?_eq_none h, exponent?_eq_none h, hvalue, Number.digitLimit]
  · have hdigits : ∀ c ∈ Nat.toDigits 10 n, c.isDigit = true := fun c hc =>
      Nat.isDigit_of_mem_toDigits (by decide) (by decide) hc
    have hstretch := (stretch_append hdigits fun c hc => (h c hc).1).1
    obtain ⟨c, cs, hcs, hc⟩ := head_toDigits hpos
    have hfirst : ∀ tail, Nat.toDigits 10 n ++ rest ≠ '0' :: tail := by
      intro tail heq
      rw [hcs] at heq
      exact hc (List.cons.inj heq).1
    rw [readNumber?]
    · simp [hstretch, Nat.toDigits_ne_nil, fraction?_eq_none h, exponent?_eq_none h, hvalue, hlimit]
    · exact hfirst

/-! ### Values -/

/-- There is no number with a fraction in the value, none of too many digits, and no name twice in one object; lists and
objects stand in one another no more than `levels` times. -/
inductive IsExact : (levels : Nat) → Json → Prop
  | null {levels : Nat} : IsExact levels .null
  | bool {levels : Nat} (b : Bool) : IsExact levels (.bool b)
  | int {levels : Nat} {n : Int} (hlimit : (Nat.toDigits 10 n.natAbs).length ≤ Number.digitLimit) : IsExact levels (.int n)
  | str {levels : Nat} (s : WideString) : IsExact levels (.str s)
  | arr {levels : Nat} {items : List Json} (hitems : ∀ v ∈ items, IsExact levels v) : IsExact (levels + 1) (.arr items)
  | obj {levels : Nat} {fields : Fields} (hfields : ∀ f ∈ fields, IsExact levels f.2)
      (hnames : (fields.map fun f => f.1.joined).Nodup) : IsExact (levels + 1) (.obj fields)

theorem IsExact.mono {levels more : Nat} {v : Json} (h : IsExact levels v) (hle : levels ≤ more) : IsExact more v := by
  induction h generalizing more with
  | null => exact .null
  | bool b => exact .bool b
  | int hlimit => exact .int hlimit
  | str s => exact .str s
  | arr _ ih =>
      obtain ⟨more, rfl⟩ := Nat.exists_eq_add_one_of_ne_zero (Nat.ne_zero_of_lt hle)
      exact .arr fun v hv => ih v hv (Nat.le_of_succ_le_succ hle)
  | obj _ hnames ih =>
      obtain ⟨more, rfl⟩ := Nat.exists_eq_add_one_of_ne_zero (Nat.ne_zero_of_lt hle)
      exact .obj (fun f hf => ih f hf (Nat.le_of_succ_le_succ hle)) hnames

/-- Written with any margin and in front of anything that ends a number, the value is read again by a reader that goes
deep enough, with as much fuel as it has characters. -/
def IsReadBack (levels : Nat) (v : Json) : Prop :=
  ∀ (margin depth fuel : Nat) (rest : WideString), levels ≤ depth → (layout margin v).length ≤ fuel + 1 →
    EndsNumber rest.front → readValue depth (fuel + 1) (layout margin v ++ rest) = .ok (v.joined, rest)

section Values

variable {levels margin depth fuel : Nat} {rest : WideString} {c : Char}

theorem endsNumber_cons (hdigit : c.isDigit = false) (hmark : c ≠ '.' ∧ c ≠ 'e' ∧ c ≠ 'E') (rest : WideString) :
    EndsNumber (WideString.front (char c :: rest)) := by
  rintro _ ⟨⟩
  exact ⟨hdigit, hmark⟩

theorem skipSpace_newLine (h : isJsonSpace c = false) :
    skipSpace (newLine margin ++ char c :: rest) = char c :: rest := by
  refine (stretch_append ?_ ?_).2
  · intro p hp
    rcases List.mem_cons.1 hp with rfl | hp
    · rfl
    · rw [List.eq_of_mem_replicate hp]
      rfl
  · rintro _ ⟨⟩
    exact h

theorem skipSpace_cons (h : isJsonSpace c = false) : skipSpace (char c :: rest) = char c :: rest :=
  List.dropWhile_cons_of_neg (by simp [CodePoint.is, h])

theorem intText_ofNat (n : Nat) : intText (.ofNat n) = Nat.toDigits 10 n := by
  rw [intText, Int.toString_eq_repr]
  exact Nat.toList_repr

theorem intText_negSucc (n : Nat) : intText (.negSucc n) = '-' :: Nat.toDigits 10 (n + 1) := by
  rw [intText, Int.toString_eq_repr]
  exact String.toList_append.trans (congrArg ('-' :: ·) Nat.toList_repr)

/-- The first digit of a number. -/
theorem exists_digit (n : Nat) : ∃ c cs, Nat.toDigits 10 n = c :: cs ∧ c.isDigit = true := by
  obtain ⟨c, cs, hcs⟩ := List.exists_cons_of_ne_nil (Nat.toDigits_ne_nil (n := n) (b := 10))
  exact ⟨c, cs, hcs, Nat.isDigit_of_mem_toDigits (by decide) (by decide) (hcs ▸ List.mem_cons_self)⟩

/-- A written value begins with a character that ends neither a list nor an object. -/
theorem head_layout {v : Json} (h : v.IsExact levels) (margin : Nat) :
    ∃ c s, layout margin v = char c :: s ∧ isJsonSpace c = false ∧ c ≠ ']' := by
  cases h with
  | null => exact ⟨'n', _, rfl, by decide⟩
  | bool b => cases b <;> exact ⟨_, _, rfl, by decide⟩
  | @int _ n _ =>
      rw [layout]
      cases n with
      | ofNat n =>
          obtain ⟨c, cs, hcs, hdigit⟩ := exists_digit n
          refine ⟨c, ofChars cs, by rw [intText_ofNat, hcs, ofChars_cons], ?_, ?_⟩
          · rw [isJsonSpace]
            by_contra hspace
            simp only [Bool.not_eq_false, Bool.or_eq_true, beq_iff_eq] at hspace
            rcases hspace with ((rfl | rfl) | rfl) | rfl <;> cases hdigit
          · rintro rfl
            cases hdigit
      | negSucc n => exact ⟨'-', _, by rw [intText_negSucc, ofChars_cons], by decide⟩
  | str s => exact ⟨'"', _, rfl, by decide⟩
  | @arr _ items _ => cases items <;> exact ⟨'[', _, rfl, by decide⟩
  | @obj _ fields _ _ => cases fields <;> exact ⟨'\x7b', _, rfl, by decide⟩

/-! #### Words and numbers -/

theorem readNumber?_eq_none (hdigit : c.isDigit = false) (negative : Bool) (cs : List Char) :
    readNumber? negative (c :: cs) = none := by
  rw [readNumber?]
  · simp [hdigit]
  · rintro tail heq
    cases heq
    cases hdigit

/-- What begins with none of the marks is a number or a word. -/
theorem readValue_bare (c : Char) (cs : List Char) (hmarks : c ≠ '"' ∧ c ≠ '\x7b' ∧ c ≠ '[') {v : Json}
    (hread : readBare? (c :: cs ++ rest.front) = some (.ok v, rest.front)) :
    readValue depth (fuel + 1) (ofChars (c :: cs) ++ rest) = .ok (v, rest) := by
  obtain ⟨hquote, hobject, hlist⟩ := hmarks
  have hdrop : (ofChars (c :: cs) ++ rest).drop ((c :: cs ++ rest.front).length - rest.front.length) = rest := by
    rw [List.length_append, Nat.add_sub_cancel, ← WideString.length_ofChars, List.drop_left]
  have hfront : (ofChars (c :: cs) ++ rest).front = c :: cs ++ rest.front := WideString.front_append _ _
  rw [readValue, hfront, hread]
  · exact congrArg (fun s => Except.ok (v, s)) hdrop
  all_goals
    rintro tail heq
    cases heq
    contradiction

theorem readBare?_of_unsigned (hsign : c ≠ '-') (cs : List Char) :
    readBare? (c :: cs) = (readNumber? false (c :: cs)).or (readLiteral? (c :: cs)) := by
  rw [readBare?]
  rintro tail heq
  cases heq
  exact hsign rfl

/-- What begins with neither a digit nor a sign is a word. -/
theorem readBare?_of_word (hdigit : c.isDigit = false) (hsign : c ≠ '-') (cs : List Char) :
    readBare? (c :: cs) = readLiteral? (c :: cs) := by
  rw [readBare?_of_unsigned hsign, readNumber?_eq_none hdigit, Option.none_or]

theorem isReadBack_null : IsReadBack levels .null := by
  intro margin depth fuel rest _ _ _
  exact readValue_bare 'n' ['u', 'l', 'l'] (by decide) (readBare?_of_word rfl (by decide) _)

theorem isReadBack_bool (b : Bool) : IsReadBack levels (.bool b) := by
  intro margin depth fuel rest _ _ _
  cases b with
  | false =>
      exact readValue_bare 'f' ['a', 'l', 's', 'e'] (by decide) (readBare?_of_word rfl (by decide) _)
  | true => exact readValue_bare 't' ['r', 'u', 'e'] (by decide) (readBare?_of_word rfl (by decide) _)

theorem isReadBack_int {n : Int} (hlimit : (Nat.toDigits 10 n.natAbs).length ≤ Number.digitLimit) :
    IsReadBack levels (.int n) := by
  intro margin depth fuel rest _ _ hrest
  rw [layout]
  cases n with
  | ofNat n =>
      have hnumber := readNumber?_toDigits (n := n) false hlimit hrest
      obtain ⟨c, cs, hcs, hdigit⟩ := exists_digit n
      rw [hcs] at hnumber
      rw [intText_ofNat, hcs]
      refine readValue_bare _ _ ⟨?_, ?_, ?_⟩ ?_
      · rintro rfl
        cases hdigit
      · rintro rfl
        cases hdigit
      · rintro rfl
        cases hdigit
      · rw [List.cons_append, readBare?_of_unsigned, ← List.cons_append, hnumber]
        · rfl
        · rintro rfl
          cases hdigit
  | negSucc n =>
      rw [intText_negSucc]
      refine readValue_bare _ _ (by decide) ?_
      rw [List.cons_append, readBare?, readNumber?_toDigits (n := n + 1) true hlimit hrest]
      rfl

/-! #### Texts -/

theorem ofChars_encodeText (s : WideString) (rest : WideString) :
    ofChars (encodeText s) ++ rest = char '"' :: (ofChars (s.flatMap encodePoint) ++ char '"' :: rest) := by
  simp [encodeText]

theorem isReadBack_str (s : WideString) : IsReadBack levels (.str s) := by
  intro margin depth fuel rest _ _ _
  rw [layout, ofChars_encodeText, readValue, readString_encodeText]
  rfl

/-! #### Lists and objects -/

theorem endsNumber_newLine (margin : Nat) (rest : WideString) :
    EndsNumber (WideString.front (newLine margin ++ rest)) :=
  endsNumber_cons rfl (by decide) _

/-- On a line of its own a value is found behind the margin. -/
theorem skipSpace_line {v : Json} (h : v.IsExact levels) (outer margin : Nat) (rest : WideString) :
    skipSpace (newLine outer ++ (layout margin v ++ rest)) = layout margin v ++ rest := by
  obtain ⟨c, cs, hcs, hspace, -⟩ := head_layout h margin
  rw [hcs]
  exact skipSpace_newLine hspace

/-- Behind its name a value is found after a blank. -/
theorem skipSpace_blank {v : Json} (h : v.IsExact levels) (rest : WideString) :
    skipSpace (char ' ' :: (layout margin v ++ rest)) = layout margin v ++ rest := by
  obtain ⟨c, cs, hcs, hspace, -⟩ := head_layout h margin
  rw [hcs]
  exact (List.dropWhile_cons_of_pos rfl).trans (skipSpace_cons hspace)

/-- One item, and what stands behind it. -/
theorem readItems_item {v : Json} (hread : v.IsReadBack levels) (hdepth : levels ≤ depth) {after : WideString}
    (hafter : EndsNumber after.front) (read : List Json) (hfuel : (layout margin v).length ≤ fuel + 1) :
    readItems depth (fuel + 2) (layout margin v ++ after) read = match skipSpace after with
      | char ']' :: rest => .ok (.arr (v.joined :: read).reverse, rest)
      | char ',' :: rest => readItems depth (fuel + 1) (skipSpace rest) (v.joined :: read)
      | rest => .error (.unexpected "Expecting ',' delimiter" rest) := by
  rw [readItems, hread margin depth fuel after hdepth hfuel hafter]
  rfl

/-- The items from one on, and the end of the list. -/
theorem readItems_layout {v : Json} {items : List Json} (hread : ∀ x ∈ v :: items, x.IsReadBack levels)
    (hexact : ∀ x ∈ v :: items, x.IsExact levels) (hdepth : levels ≤ depth)
    (outer : Nat) (rest : WideString) (read : List Json)
    (hfuel : (layout margin v ++ layoutItems margin items).length ≤ fuel + 1) :
    readItems depth (fuel + 2) (layout margin v ++ (layoutItems margin items ++ (newLine outer ++ char ']' :: rest))) read =
      .ok (.arr (read.reverse ++ (v :: items).map joined), rest) := by
  induction items generalizing v fuel read with
  | nil =>
      rw [layoutItems, List.append_nil] at hfuel
      rw [layoutItems, List.nil_append, readItems_item (hread v List.mem_cons_self) hdepth (endsNumber_newLine outer _)
        read hfuel, skipSpace_newLine rfl]
      simp only [List.reverse_cons, List.map_cons, List.map_nil]
  | cons w items ih =>
      have hlength : (layout margin v).length + 2 ≤ fuel + 1 ∧
          (layout margin w ++ layoutItems margin items).length + 2 ≤ fuel + 1 := by
        simp only [layoutItems, newLine, List.length_append, List.length_cons] at hfuel ⊢
        omega
      obtain ⟨fuel, rfl⟩ := Nat.exists_eq_add_one_of_ne_zero (show fuel ≠ 0 by omega)
      have hless : (layout margin w ++ layoutItems margin items).length ≤ fuel + 1 := by omega
      have hmore := ih (fun x hx => hread x (List.mem_cons_of_mem v hx)) (fun x hx => hexact x (List.mem_cons_of_mem v hx))
        (v.joined :: read) hless
      rw [List.reverse_cons, List.append_assoc, List.singleton_append, ← List.map_cons] at hmore
      have hskip := skipSpace_line (hexact w (List.mem_cons_of_mem v List.mem_cons_self)) margin margin
        (layoutItems margin items ++ (newLine outer ++ char ']' :: rest))
      rw [layoutItems, List.cons_append, List.cons_append, List.cons_append, List.append_assoc, List.append_assoc,
        readItems_item (hread v List.mem_cons_self) hdepth (endsNumber_cons rfl (by decide) _) read (by omega),
        skipSpace_cons rfl]
      exact (congrArg (readItems depth (fuel + 2) · (v.joined :: read)) hskip).trans hmore

theorem isReadBack_arr {items : List Json} (hread : ∀ v ∈ items, v.IsReadBack levels)
    (hexact : ∀ v ∈ items, v.IsExact levels) : IsReadBack (levels + 1) (.arr items) := by
  intro margin depth fuel rest hdepth hfuel hrest
  obtain ⟨depth, rfl⟩ := Nat.exists_eq_add_one_of_ne_zero (Nat.ne_zero_of_lt hdepth)
  have hdepth : levels ≤ depth := Nat.le_of_succ_le_succ hdepth
  cases items with
  | nil =>
      have hskip : skipSpace (char ']' :: rest) = char ']' :: rest := skipSpace_cons rfl
      change readValue (depth + 1) (fuel + 1) (char '[' :: char ']' :: rest) = _
      rw [readValue, hskip]
      rfl
  | cons v items =>
      have hlength : 2 ≤ fuel ∧ (layout (margin + 1) v ++ layoutItems (margin + 1) items).length + 2 ≤ fuel := by
        simp only [layout, newLine, List.length_append, List.length_cons] at hfuel ⊢
        omega
      obtain ⟨fuel, rfl⟩ := Nat.exists_eq_add_of_le' hlength.1
      have hless : (layout (margin + 1) v ++ layoutItems (margin + 1) items).length ≤ fuel + 1 := by omega
      have hskip := skipSpace_line (hexact v List.mem_cons_self) (margin + 1) (margin + 1)
        (layoutItems (margin + 1) items ++ (newLine margin ++ char ']' :: rest))
      have hitems := readItems_layout hread hexact hdepth margin rest [] hless
      obtain ⟨c, cs, hcs, -, hbracket⟩ := head_layout (hexact v List.mem_cons_self) (margin + 1)
      rw [layout]
      simp only [List.cons_append, List.append_assoc, List.nil_append]
      rw [readValue, hskip]
      rw [hcs] at hitems ⊢
      split
      · rename_i heq
        exact absurd (CodePoint.char.inj (List.cons.inj heq).1) hbracket
      · rw [joined, joinedItems_eq_map]
        exact hitems

theorem insertField_of_new {name : WideString} {read : Fields} (h : name ∉ read.map (·.1)) (v : Json) :
    readFields.insertField name v read = read ++ [(name, v)] := by
  have hnone : read.any (·.1 = name) = false := by
    rw [any_name_iff, ← Bool.not_eq_true, ← mem_names_iff]
    exact h
  rw [readFields.insertField, hnone, if_neg Bool.false_ne_true]

theorem layoutField_append (margin : Nat) (f : WideString × Json) (rest : WideString) :
    layoutField margin f ++ rest =
      char '"' :: (ofChars (f.1.flatMap encodePoint) ++
        char '"' :: char ':' :: char ' ' :: (layout margin f.2 ++ rest)) := by
  rw [layoutField, List.append_assoc, ofChars_encodeText]
  rfl

theorem length_layout_le (margin : Nat) (f : WideString × Json) :
    (layout margin f.2).length + 2 ≤ (layoutField margin f).length := by
  rw [layoutField, List.length_append, List.length_cons, List.length_cons]
  omega

theorem not_mem_of_nodup {name : WideString} {v : Json} {read fields : Fields}
    (h : ((read ++ (name, v) :: fields).map (·.1)).Nodup) : name ∉ read.map (·.1) := by
  rw [List.map_append, List.map_cons, List.nodup_append] at h
  exact fun hmem => h.2.2 _ hmem _ List.mem_cons_self rfl

/-- One field, and what stands behind it. -/
theorem readFields_field {f : WideString × Json} (hread : f.2.IsReadBack levels) (hexact : f.2.IsExact levels)
    (hdepth : levels ≤ depth) {after : WideString} (hafter : EndsNumber after.front) {read : Fields}
    (hnew : f.1.joined ∉ read.map (·.1)) (hfuel : (layout margin f.2).length ≤ fuel + 1) :
    readFields depth (fuel + 2) (layoutField margin f ++ after) read = match skipSpace after with
      | char '\x7d' :: rest => .ok (.obj (read ++ [joinedField f]), rest)
      | char ',' :: rest => readFields depth (fuel + 1) (skipSpace rest) (read ++ [joinedField f])
      | rest => .error (.unexpected "Expecting ',' delimiter" rest) := by
  rw [layoutField_append, readFields, readString_encodeText]
  simp only [bind, Except.bind, skipSpace_cons (c := ':') rfl, skipSpace_blank hexact,
    hread margin depth fuel after hdepth hfuel hafter, insertField_of_new hnew]
  rfl

/-- The fields from one on, and the end of the object. -/
theorem readFields_layout {f : WideString × Json} {fields : Fields}
    (hread : ∀ g ∈ f :: fields, g.2.IsReadBack levels) (hexact : ∀ g ∈ f :: fields, g.2.IsExact levels)
    (hdepth : levels ≤ depth) (outer : Nat) (rest : WideString) {read : Fields}
    (hnames : ((read ++ (f :: fields).map joinedField).map (·.1)).Nodup)
    (hfuel : (layoutField margin f ++ layoutFields margin fields).length ≤ fuel + 1) :
    readFields depth (fuel + 2)
        (layoutField margin f ++ (layoutFields margin fields ++ (newLine outer ++ char '\x7d' :: rest))) read =
      .ok (.obj (read ++ (f :: fields).map joinedField), rest) := by
  induction fields generalizing f fuel read with
  | nil =>
      have hlength := length_layout_le margin f
      have hnew := not_mem_of_nodup hnames
      rw [layoutFields, List.append_nil] at hfuel
      rw [layoutFields, List.nil_append, readFields_field (hread f List.mem_cons_self) (hexact f List.mem_cons_self) hdepth
        (endsNumber_newLine outer _) hnew (by omega), skipSpace_newLine rfl]
      rfl
  | cons g fields ih =>
      have hlength : (layout margin f.2).length + 2 ≤ fuel + 1 ∧
          (layoutField margin g ++ layoutFields margin fields).length + 2 ≤ fuel + 1 := by
        have hlength := length_layout_le margin f
        simp only [layoutFields, newLine, List.length_append, List.length_cons] at hfuel ⊢
        omega
      obtain ⟨fuel, rfl⟩ := Nat.exists_eq_add_one_of_ne_zero (show fuel ≠ 0 by omega)
      have hless : (layoutField margin g ++ layoutFields margin fields).length ≤ fuel + 1 := by omega
      have hlater : ((read ++ [joinedField f] ++ (g :: fields).map joinedField).map (·.1)).Nodup := by
        rw [← List.append_cons]
        exact hnames
      have hmore := ih (fun h hh => hread h (List.mem_cons_of_mem f hh)) (fun h hh => hexact h (List.mem_cons_of_mem f hh))
        hlater hless
      rw [← List.append_cons] at hmore
      rw [layoutFields, List.cons_append, List.cons_append, List.cons_append, List.append_assoc, List.append_assoc,
        readFields_field (hread f List.mem_cons_self) (hexact f List.mem_cons_self) hdepth
          (endsNumber_cons rfl (by decide) _) (not_mem_of_nodup hnames) (by omega), skipSpace_cons rfl]
      have hskip : skipSpace (newLine margin ++ (layoutField margin g ++ (layoutFields margin fields ++
          (newLine outer ++ char '\x7d' :: rest)))) = layoutField margin g ++ (layoutFields margin fields ++
          (newLine outer ++ char '\x7d' :: rest)) := by
        rw [layoutField_append]
        exact skipSpace_newLine rfl
      exact (congrArg (readFields depth (fuel + 2) · (read ++ [joinedField f])) hskip).trans hmore

theorem isReadBack_obj {fields : Fields} (hread : ∀ f ∈ fields, f.2.IsReadBack levels)
    (hexact : ∀ f ∈ fields, f.2.IsExact levels) (hnames : (fields.map fun f => f.1.joined).Nodup) :
    IsReadBack (levels + 1) (.obj fields) := by
  intro margin depth fuel rest hdepth hfuel hrest
  obtain ⟨depth, rfl⟩ := Nat.exists_eq_add_one_of_ne_zero (Nat.ne_zero_of_lt hdepth)
  have hdepth : levels ≤ depth := Nat.le_of_succ_le_succ hdepth
  cases fields with
  | nil =>
      have hskip : skipSpace (char '\x7d' :: rest) = char '\x7d' :: rest := skipSpace_cons rfl
      change readValue (depth + 1) (fuel + 1) (char '\x7b' :: char '\x7d' :: rest) = _
      rw [readValue, hskip]
      rfl
  | cons f fields =>
      have hlength : 2 ≤ fuel ∧ (layoutField (margin + 1) f ++ layoutFields (margin + 1) fields).length + 2 ≤ fuel := by
        simp only [layout, newLine, List.length_append, List.length_cons] at hfuel ⊢
        omega
      obtain ⟨fuel, rfl⟩ := Nat.exists_eq_add_of_le' hlength.1
      have hless : (layoutField (margin + 1) f ++ layoutFields (margin + 1) fields).length ≤ fuel + 1 := by omega
      have hnames' : (([] ++ (f :: fields).map joinedField : Fields).map (·.1)).Nodup := by
        rw [List.nil_append, List.map_map]
        exact hnames
      have hfields := readFields_layout hread hexact hdepth margin rest hnames' hless
      rw [layoutField_append] at hfields
      rw [layout]
      simp only [List.cons_append, List.append_assoc, List.nil_append]
      rw [layoutField_append, readValue, skipSpace_newLine rfl, joined, joinedFields_eq_map]
      exact hfields

end Values

/-- Every value without a fraction and without a name that stands twice is read back, by induction on the value. -/
theorem isReadBack_of_isExact {levels : Nat} {v : Json} (h : v.IsExact levels) : v.IsReadBack levels := by
  induction h with
  | null => exact isReadBack_null
  | bool b => exact isReadBack_bool b
  | int hlimit => exact isReadBack_int hlimit
  | str s => exact isReadBack_str s
  | arr hitems ih => exact isReadBack_arr ih hitems
  | obj hfields hnames ih => exact isReadBack_obj ih hfields hnames

/-- What is written down is read as the value that it was, by a reader that goes as deep as the value. -/
theorem read_render {levels depth : Nat} {v : Json} (h : v.IsExact levels) (hdepth : levels ≤ depth) :
    read depth v.render = .ok v.joined := by
  have hread := isReadBack_of_isExact h 0 depth (2 * (layout 0 v).length + 1) [] hdepth (by omega) (fun _ hc => by cases hc)
  obtain ⟨c, cs, hcs, hspace, -⟩ := head_layout h 0
  have hskip : skipSpace (layout 0 v) = layout 0 v := by
    rw [hcs]
    exact skipSpace_cons hspace
  rw [List.append_nil] at hread
  rw [read, render, hskip, hread]
  rfl

end Playbook.Json
