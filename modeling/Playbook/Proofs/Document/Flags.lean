import Playbook.Proofs.Document.Tokens
import Mathlib.Data.List.Forall2
/-!
# What flags are made of

There is one way to cut a text into tokens with nothing but blanks between them. A flag begins at each mark, which is a
bare token of the form `--name`, and takes the tokens up to the next mark. So the words in front of the first mark and
then those of the flags, one flag after another, are the words of the text, none lost and none moved.
-/

namespace Playbook

open Text

namespace Token

/-! ### Cutting a text -/

/-- What may be one token in front of a rest: what stands in quotes, or the longest stretch without blanks. Such a stretch
begins with a quote only if that is the last one of all. -/
inductive Fits (t : Token) (rest : List Char) : Prop
  | quoted (isQuoted : t.isQuoted = true) (noQuote : '"' ∉ t.value)
  | bare (isBare : t.isQuoted = false) (visible : t.value ≠ []) (noBlank : ∀ c ∈ t.value, isBlankChar c = false)
      (longest : ∀ c ∈ rest.head?, isBlankChar c = true)
      (unpaired : t.value.head? = some '"' → '"' ∉ t.value.tail ++ rest)

/-- The tokens stand in the text one behind the other, each in its place, and whatever is between them, in front of them
and behind them is blank. -/
inductive Cuts : Nat → List Char → List Token → Prop
  | nil {start : Nat} {cs : List Char} (isBlank : Text.isBlank cs = true) : Cuts start cs []
  | cons {start : Nat} {gap rest : List Char} {t : Token} {ts : List Token} (isBlank : Text.isBlank gap = true)
      (start_eq : t.start = start + gap.length) (length_eq : t.length = t.source.length) (fits : t.Fits rest)
      (more : Cuts (t.start + t.length) rest ts) : Cuts start (gap ++ (t.source ++ rest)) (t :: ts)

theorem fits_next (start : Nat) {c : Char} (hc : isBlankChar c = false) (cs : List Char) :
    (next start c cs).1.Fits (next start c cs).2 := by
  unfold next
  split
  · refine .quoted rfl fun hquote => ?_
    simpa using List.mem_takeWhile_imp hquote
  · rename_i hbare
    refine .bare rfl (List.cons_ne_nil _ _) (List.forall_mem_cons.2 ⟨hc, fun d hd => ?_⟩) (fun d hd => ?_) fun hquote => ?_
    · simpa using List.mem_takeWhile_imp hd
    · simpa using not_of_mem_head?_dropWhile hd
    · rw [List.tail_cons, List.takeWhile_append_dropWhile]
      exact fun hmem => hbare ⟨Option.some.inj hquote, hmem⟩

theorem Cuts.behind {start : Nat} {cs : List Char} {ts : List Token} {c : Char} (hc : isBlankChar c = true)
    (h : Cuts (start + 1) cs ts) : Cuts start (c :: cs) ts := by
  have hcons : ∀ {gap : List Char}, Text.isBlank gap = true → Text.isBlank (c :: gap) = true := fun hgap =>
    (Bool.and_eq_true _ _).mpr ⟨hc, hgap⟩
  cases h with
  | nil hblank => exact .nil (hcons hblank)
  | @cons _ gap rest t ts hblank hstart hlength hfits hmore =>
      have hplace : t.start = start + (c :: gap).length := by
        rw [hstart, List.length_cons]
        omega
      exact .cons (hcons hblank) hplace hlength hfits hmore

theorem cuts_scanFrom (start : Nat) (cs : List Char) : Cuts start cs (scanFrom start cs) := by
  induction start, cs using scanFrom.induct with
  | case1 start =>
      rw [scanFrom_nil]
      exact .nil rfl
  | case2 start c cs hblank ih =>
      rw [scanFrom_of_blank hblank]
      exact ih.behind hblank
  | case3 start c cs hblank ih =>
      have hvisible : isBlankChar c = false := by simpa using hblank
      have hmore : Cuts ((next start c cs).1.start + (next start c cs).1.length) (next start c cs).2
          (scanFrom (start + (next start c cs).1.length) (next start c cs).2) := by rwa [start_next]
      have hgap : Text.isBlank [] = true := rfl
      have hcut := Cuts.cons hgap (start_next start c cs) (length_source_next start c cs).symm
        (fits_next start hvisible cs) hmore
      rwa [List.nil_append, source_next, ← scanFrom_of_visible hblank] at hcut

/-- No other tokens cut the text. -/
theorem Cuts.eq_scanFrom {start : Nat} {cs : List Char} {ts : List Token} (h : Cuts start cs ts) :
    ts = scanFrom start cs := by
  induction h with
  | @nil start cs hblank =>
      rw [← List.append_nil cs, scanFrom_margin hblank, scanFrom_nil]
  | @cons start gap rest t ts hblank hstart hlength hfits hmore ih =>
      rw [scanFrom_margin hblank, ← hstart, ih]
      obtain ⟨value, place, length, isQuoted⟩ := t
      cases hfits with
      | quoted isQuoted noQuote =>
          obtain rfl : _ = true := isQuoted
          obtain rfl : length = value.length + 2 := by simpa [source] using hlength
          rw [source, if_pos rfl, List.append_assoc]
          exact (scanFrom_quoted noQuote rest place).symm
      | bare isBare visible noBlank longest unpaired =>
          obtain rfl : _ = false := isBare
          obtain rfl : length = value.length := by simpa [source] using hlength
          exact (scanFrom_stretch noBlank visible unpaired longest place).symm

theorem isBlank_of_scanFrom_eq_nil {start : Nat} {cs : List Char} (h : scanFrom start cs = []) :
    Text.isBlank cs = true := by
  have hcuts := cuts_scanFrom start cs
  rw [h] at hcuts
  cases hcuts with
  | nil hblank => exact hblank

/-! ### Marks -/

/-- A mark is bare, and a name stands behind its dashes. -/
theorem flagName?_eq_some_iff {t : Token} {name : List Char} :
    t.flagName? = some name ↔ t.isQuoted = false ∧ t.value = '-' :: '-' :: name ∧ isName name = true := by
  constructor
  · intro h
    unfold flagName? at h
    split at h
    · rename_i cs hbare hvalue
      split at h
      · rename_i hname
        cases h
        exact ⟨hbare, hvalue, hname⟩
      · cases h
    · cases h
  · rintro ⟨hbare, hvalue, hname⟩
    simp only [flagName?, hbare, hvalue, hname, if_true]

end Token

/-! ### Grouping tokens -/

namespace FlagTokens

theorem front_split (ts : List Token) : (split ts).1 = ts.takeWhile (·.flagName?.isNone) := by
  induction ts with
  | nil => rfl
  | cons t ts ih =>
      rw [split]
      cases hname : t.flagName? with
      | some name => rw [List.takeWhile_cons_of_neg (by simp [hname])]
      | none => rw [List.takeWhile_cons_of_pos (by simp [hname]), ← ih]

/-- A mark, which gives the name, and tokens that are none. -/
structure IsMarked (f : FlagTokens) (name : List Char) : Prop where
  mark : ∃ t, f.head = some (t, name) ∧ t.flagName? = some name
  values : ∀ t ∈ f.values, t.flagName? = none

theorem noMark_front (ts : List Token) : ∀ t ∈ (split ts).1, t.flagName? = none := by
  rw [front_split]
  intro t ht
  simpa using List.mem_takeWhile_imp ht

theorem isMarked_of_mem_named {ts : List Token} {f : FlagTokens} (h : f ∈ named ts) : ∃ name, f.IsMarked name := by
  unfold named at h
  induction ts with
  | nil => cases h
  | cons t ts ih =>
      rw [split] at h
      cases hname : t.flagName? with
      | none => exact ih (by simpa only [hname] using h)
      | some name =>
          simp only [hname] at h
          rcases List.mem_cons.1 h with rfl | h
          · exact ⟨name, ⟨t, rfl, hname⟩, noMark_front ts⟩
          · exact ih h

end FlagTokens

/-! ### Words -/

/-- What a flag takes of the words of a text: its mark and its values. -/
def Flag.words (f : Flag) : List String := ("--" ++ f.name) :: f.values

/-- The words in front of the first mark. -/
def Flag.front (text : String) : List String :=
  ((Token.scan text.toList).takeWhile (·.flagName?.isNone)).map (String.ofList ·.value)

/-- The flag of a mark and the tokens behind it. -/
def FlagTokens.Gives (fs : FlagTokens) (f : Flag) : Prop :=
  fs.IsMarked f.name.toList ∧ f.values = fs.values.map (String.ofList ·.value)

/-- The flags account for each word of the text, once and in its place: it stands in front of the first mark, or is that
of a mark, or a value of the flag that the last mark before it gives. -/
structure Flag.Account (text : String) (flags : List Flag) : Prop where
  words_eq : parseValues text = front text ++ flags.flatMap words
  groups : ∃ (before : List Token) (groups : List FlagTokens),
    Token.scan text.toList = before ++ groups.flatMap FlagTokens.tokens ∧ (∀ t ∈ before, t.flagName? = none) ∧
      List.Forall₂ FlagTokens.Gives groups flags

section Words

variable (place : Token → Option Position)

theorem FlagTokens.IsMarked.gives {f : FlagTokens} {name : List Char} (h : f.IsMarked name) :
    f.Gives (f.flag place) := by
  obtain ⟨t, hhead, -⟩ := h.mark
  have hname : (f.flag place).name.toList = name := by
    simp only [flag, hhead, Option.map_some, Option.getD_some, String.toList_ofList]
  exact ⟨hname.symm ▸ h, rfl⟩

theorem FlagTokens.IsMarked.words {f : FlagTokens} {name : List Char} (h : f.IsMarked name) :
    (f.flag place).words = f.tokens.map (String.ofList ·.value) := by
  obtain ⟨t, hhead, hname⟩ := h.mark
  obtain ⟨-, hvalue, -⟩ := Token.flagName?_eq_some_iff.1 hname
  have hmark : "--" ++ String.ofList name = String.ofList t.value := by
    apply String.toList_injective
    rw [hvalue, String.toList_append, String.toList_ofList, String.toList_ofList, String.toList_ofList]
    rfl
  simp only [Flag.words, flag, tokens, hhead, Option.map_some, Option.getD_some, Option.toList_some, hmark,
    List.singleton_append, List.map_cons]

theorem FlagTokens.words_named (ts : List Token) :
    ((named ts).map (·.flag place)).flatMap Flag.words = ((named ts).flatMap tokens).map (String.ofList ·.value) := by
  rw [List.flatMap_map, List.map_flatMap]
  refine List.flatMap_congr fun f hf => ?_
  obtain ⟨name, hmarked⟩ := isMarked_of_mem_named hf
  exact hmarked.words place

theorem Flag.account_named (text : String) :
    Account text ((FlagTokens.named (Token.scan text.toList)).map (·.flag place)) where
  words_eq := by
    rw [FlagTokens.words_named, front, ← FlagTokens.front_split, ← List.map_append, FlagTokens.named,
      FlagTokens.split_tokens]
    rfl
  groups := by
    refine ⟨_, FlagTokens.named _, (FlagTokens.split_tokens _).symm, FlagTokens.noMark_front _, ?_⟩
    rw [List.forall₂_map_right_iff, List.forall₂_same]
    intro f hf
    obtain ⟨name, hmarked⟩ := FlagTokens.isMarked_of_mem_named hf
    exact hmarked.gives place

end Words

/-- Visible text without a dash in front is one flag of all its tokens. -/
theorem FlagTokens.ofText_of_visible {cs : List Char} (hvisible : Text.isBlank cs = false) (hdash : cs.head? ≠ some '-') :
    ofText cs = [⟨none, Token.scan cs⟩] := by
  unfold ofText
  split
  · exact absurd rfl hdash
  · exact absurd rfl hdash
  · split
    · rename_i hscan
      rw [Token.isBlank_of_scanFrom_eq_nil hscan] at hvisible
      cases hvisible
    · rfl

/-! ### Places -/

namespace Flag

/-- A place in a document, or none. -/
def Origin.IsProper (o : Origin) : Prop := ∀ line ∈ o.line, 1 ≤ line ∧ 0 ≤ o.column

/-- Flags that are as they should be, or none because their place cannot be one in a document. -/
def Brings (o : Origin) (r : Except (List PositionFault) (List Flag)) (isGood : List Flag → Prop) : Prop :=
  (∃ flags, r = .ok flags ∧ isGood flags) ∨ ¬o.IsProper ∧ ∃ faults, r = .error faults

theorem Origin.faults_of_isProper {o : Origin} (h : o.IsProper) (t : Token) : o.faults t = [] := by
  unfold faults
  cases hline : o.line with
  | none => rfl
  | some line =>
      obtain ⟨hfirst, hcolumn⟩ := h line hline
      have hstart : ¬ o.column + t.start < 0 := by omega
      simp only [if_neg (Int.not_lt.2 hfirst), if_neg hstart, List.append_nil]

theorem brings_placeAll {o : Origin} {fs : List FlagTokens} {isGood : List Flag → Prop}
    (h : isGood (fs.map (·.flag o.place))) : Brings o (placeAll o fs) isGood := by
  unfold placeAll
  split
  · rename_i faults hfaults
    refine .inr ⟨fun hproper => ?_, faults, rfl⟩
    obtain ⟨t, -, rfl⟩ := List.mem_map.1 (List.mem_of_find?_eq_some hfaults)
    have hsome := List.find?_some hfaults
    rw [o.faults_of_isProper hproper] at hsome
    cases hsome
  · exact .inl ⟨_, rfl, h⟩

/-- **The words of flags.** Only the scan cuts a text, and a mark in it is never in quotes. Flags that are read from the
text account for all of its words; and visible text that does not begin with a dash is one flag without a name, with all
of them. -/
theorem parse_account (text : String) :
    (∀ ts, Token.Cuts 0 text.toList ts ↔ ts = Token.scan text.toList) ∧
      parseValues text = (Token.scan text.toList).map (String.ofList ·.value) ∧
      (∀ t ∈ Token.scan text.toList, ∀ name, t.flagName? = some name ↔
        t.isQuoted = false ∧ t.value = '-' :: '-' :: name ∧ Token.isName name = true) ∧
      (∀ o, Brings o (parse text o) (Account text)) ∧
      (blank text = false → text.toList.head? ≠ some '-' → ∀ o, Brings o (parseAny text o) fun flags =>
        ∃ f, flags = [f] ∧ f.isPositional = true ∧ f.position = none ∧ f.values = parseValues text) := by
  refine ⟨fun ts => ⟨Token.Cuts.eq_scanFrom, fun h => h ▸ Token.cuts_scanFrom 0 _⟩, rfl,
    fun t _ name => Token.flagName?_eq_some_iff, fun o => brings_placeAll (account_named o.place text), ?_⟩
  intro hvisible hdash o
  rw [parseAny, FlagTokens.ofText_of_visible hvisible hdash]
  exact brings_placeAll ⟨_, rfl, rfl, rfl, rfl⟩

/-- A mark in quotes is a value, and a word in front of the first mark belongs to no flag. -/
example : Flag.parse "a --p \"--q\" b" ⟨none, 0⟩ = .ok [⟨"p", ["--q", "b"], none, []⟩] := by decide +kernel

end Flag

end Playbook
