import Playbook.Proofs.Document.Tokens
/-!
# Directives in writing

The ways to write a directive down. A value stands in quotes or bare, whatever the rules for the two allow; a flag is
its name and its values with gaps between them; and the flags stand on the line of the directive or on lines of their
own below it. Wherever such flags are cut into tokens, they come out with their names and values again.
-/

namespace Playbook

open Text

namespace Written

/-- Blanks within a line. -/
structure Margin where
  chars : List Char
  isBlank : Text.isBlank chars = true
  inLine : '\n' ∉ chars

structure Gap extends Margin where
  isWide : chars ≠ []

/-- A value, in quotes if it has none itself, or bare if it would not be taken for anything else. -/
inductive Value
  | quoted (value : List Char) (inLine : '\n' ∉ value) (noQuote : '"' ∉ value)
  | bare (value : List Char) (visible : value ≠ []) (noBlank : ∀ c ∈ value, isBlankChar c = false)
    (noQuote : value.head? ≠ some '"') (noFlag : ∀ name, Token.isName name = true → value ≠ '-' :: '-' :: name)

namespace Value

def value : Value → List Char
  | quoted value .. | bare value .. => value

def text : Value → List Char
  | quoted value .. => '"' :: value ++ ['"']
  | bare value .. => value

end Value

/-- Some texts, with a gap in front of each. -/
def spaced {α : Type} (text : α → List Char) (xs : List (Gap × α)) : List Char :=
  xs.flatMap fun (gap, x) => gap.chars ++ text x

structure Flag where
  name : List Char
  isName : Token.isName name = true
  values : List (Gap × Value)

namespace Flag

def mark (f : Flag) : List Char := '-' :: '-' :: f.name

def text (f : Flag) : List Char := f.mark ++ spaced Value.text f.values

def content (f : Flag) : String × List String := (String.ofList f.name, f.values.map (String.ofList ·.2.value))

end Flag

/-- One or more flags on a line of their own. -/
structure FlagLine where
  margin : Margin
  first : Flag
  more : List (Gap × Flag)

namespace FlagLine

def body (l : FlagLine) : List Char := l.first.text ++ spaced Flag.text l.more

def text (l : FlagLine) : Line := l.margin.chars ++ l.body

def flags (l : FlagLine) : List Flag := l.first :: l.more.map (·.2)

end FlagLine

/-- Where the flags are: on the line of the name or on lines below it. -/
inductive Layout
  | inline (flags : List (Gap × Flag))
  | below (lines : List FlagLine)

namespace Layout

def flags : Layout → List Flag
  | inline flags => flags.map (·.2)
  | below lines => lines.flatMap FlagLine.flags

/-- What stands behind the name. -/
def trailing : Layout → List Char
  | inline flags => spaced Flag.text flags
  | below _ => []

def more : Layout → List FlagLine
  | inline _ => []
  | below lines => lines

end Layout

/-- A directive as it is written. -/
structure Invocation where
  margin : Margin
  name : List Char
  isName : Token.isName name = true
  layout : Layout

namespace Invocation

def head (i : Invocation) : List Char := '@' :: (i.name ++ i.layout.trailing)

def lines (i : Invocation) : List Line := (i.margin.chars ++ i.head) :: i.layout.more.map FlagLine.text

def text (i : Invocation) : String := String.ofList (joinLines i.lines)

/-- The names and values of the flags in their order. -/
def contents (i : Invocation) : List (String × List String) := i.layout.flags.map Flag.content

end Invocation

/-! ### Spaced texts -/

section Spaced

variable {α : Type} {text : α → List Char}

theorem Gap.head (gap : Gap) (cs : List Char) : ∀ c ∈ (gap.chars ++ cs).head?, isBlankChar c = true := by
  intro c hc
  cases hchars : gap.chars with
  | nil => exact absurd hchars gap.isWide
  | cons d ds =>
      rw [hchars] at hc
      cases hc
      exact List.all_eq_true.1 gap.isBlank _ (by rw [hchars]; exact List.mem_cons_self)

theorem spaced_cons (gap : Gap) (x : α) (xs : List (Gap × α)) :
    spaced text ((gap, x) :: xs) = gap.chars ++ (text x ++ spaced text xs) := by
  simp [spaced]

theorem head_spaced_append {rest : List Char} (hrest : ∀ c ∈ rest.head?, isBlankChar c = true) (xs : List (Gap × α)) :
    ∀ c ∈ (spaced text xs ++ rest).head?, isBlankChar c = true := by
  cases xs with
  | nil => exact hrest
  | cons x xs =>
      obtain ⟨gap, x⟩ := x
      rw [spaced_cons, List.append_assoc]
      exact gap.head _

theorem head_spaced (xs : List (Gap × α)) : ∀ c ∈ (spaced text xs).head?, isBlankChar c = true := by
  rw [← List.append_nil (spaced text xs)]
  refine head_spaced_append ?_ xs
  intro c hc
  cases hc

theorem not_mem_spaced (h : ∀ x, '\n' ∉ text x) (xs : List (Gap × α)) : '\n' ∉ spaced text xs := by
  intro hmem
  obtain ⟨⟨gap, x⟩, -, hx⟩ := List.mem_flatMap.1 hmem
  rcases List.mem_append.1 hx with hx | hx
  · exact gap.inLine hx
  · exact h x hx

theorem isTight_spaced {cs : List Char} (hcs : IsTight cs) (h : ∀ x, IsTight (text x)) (xs : List (Gap × α)) :
    IsTight (cs ++ spaced text xs) := by
  induction xs generalizing cs with
  | nil => simpa [spaced] using hcs
  | cons x xs ih =>
      obtain ⟨gap, x⟩ := x
      rw [spaced_cons, ← List.append_assoc, ← List.append_assoc]
      exact ih (hcs.append (h x) gap.chars)

end Spaced

/-! ### What is in a line -/

theorem isTight_of_noBlank {cs : List Char} (hne : cs ≠ []) (h : ∀ c ∈ cs, isBlankChar c = false) : IsTight cs where
  head := ⟨cs.head hne, List.head?_eq_some_head hne, h _ (List.head_mem hne)⟩
  last := ⟨cs.getLast hne, List.getLast?_eq_some_getLast hne, h _ (List.getLast_mem hne)⟩

theorem not_mem_of_noBlank {cs : List Char} (h : ∀ c ∈ cs, isBlankChar c = false) : '\n' ∉ cs :=
  fun hmem => absurd (h _ hmem) (by decide)

theorem Value.inLine (v : Value) : '\n' ∉ v.text := by
  cases v with
  | quoted value inLine noQuote => simpa [text] using inLine
  | bare value visible noBlank noQuote noFlag => exact not_mem_of_noBlank noBlank

theorem Value.isTight (v : Value) : IsTight v.text := by
  cases v with
  | quoted value inLine noQuote =>
      exact ⟨⟨'"', rfl, by decide⟩, ⟨'"', List.getLast?_concat, by decide⟩⟩
  | bare value visible noBlank noQuote noFlag => exact isTight_of_noBlank visible noBlank

theorem Flag.noBlank (f : Flag) : ∀ c ∈ f.mark, isBlankChar c = false :=
  List.forall_mem_cons.2 ⟨by decide, List.forall_mem_cons.2 ⟨by decide, Token.noBlank_of_isName f.isName⟩⟩

theorem Flag.inLine (f : Flag) : '\n' ∉ f.text := by
  rw [text, List.mem_append, not_or]
  exact ⟨not_mem_of_noBlank f.noBlank, not_mem_spaced Value.inLine f.values⟩

theorem Flag.isTight (f : Flag) : IsTight f.text :=
  isTight_spaced (isTight_of_noBlank (List.cons_ne_nil _ _) f.noBlank) Value.isTight f.values

theorem FlagLine.isTight_body (l : FlagLine) : IsTight l.body := isTight_spaced l.first.isTight Flag.isTight l.more

theorem FlagLine.inLine (l : FlagLine) : '\n' ∉ l.text := by
  rw [text, body, List.mem_append, List.mem_append, not_or, not_or]
  exact ⟨l.margin.inLine, l.first.inLine, not_mem_spaced Flag.inLine l.more⟩

theorem FlagLine.trim_text (l : FlagLine) : trim l.text = l.body := trim_of_isTight l.margin.isBlank l.isTight_body

end Written

/-! ### Flags read back -/

/-- The name and the values, without the places. -/
def Flag.content (f : Flag) : String × List String := (f.name, f.values)

def FlagTokens.content (f : FlagTokens) : String × List String :=
  (String.ofList ((f.head.map (·.2)).getD []), f.values.map (String.ofList ·.value))

theorem FlagTokens.content_placed (line column : Nat) (fs : List FlagTokens) :
    (fs.map (·.placed line column)).map Flag.content = fs.map content := by
  rw [List.map_map]
  rfl

namespace Written

theorem Value.scan (v : Value) {rest : List Char} (hrest : ∀ c ∈ rest.head?, isBlankChar c = true) (start : Nat) :
    ∃ t start', Token.scanFrom start (v.text ++ rest) = t :: Token.scanFrom start' rest ∧ t.value = v.value ∧
      t.flagName? = none := by
  cases v with
  | quoted value inLine noQuote =>
      refine ⟨⟨value, start, value.length + 2, true⟩, start + (value.length + 2), ?_, rfl, rfl⟩
      rw [text, List.append_assoc]
      exact Token.scanFrom_quoted noQuote rest start
  | bare value visible noBlank noQuote noFlag =>
      refine ⟨⟨value, start, value.length, false⟩, _, Token.scanFrom_bare noBlank visible noQuote hrest start, rfl, ?_⟩
      unfold Token.flagName?
      split
      · rename_i name hbare hvalue
        rw [if_neg fun hname => noFlag name hname hvalue]
      · rfl

theorem scan_values {rest : List Char} (hrest : ∀ c ∈ rest.head?, isBlankChar c = true) (vs : List (Gap × Value))
    (start : Nat) :
    ∃ ts start', Token.scanFrom start (spaced Value.text vs ++ rest) = ts ++ Token.scanFrom start' rest ∧
      ts.map (String.ofList ·.value) = vs.map (String.ofList ·.2.value) ∧ ∀ t ∈ ts, t.flagName? = none := by
  -- A value ends where the next gap begins, so what follows a value matters only for its first character.
  induction vs generalizing start with
  | nil => exact ⟨[], start, rfl, rfl, nofun⟩
  | cons v vs ih =>
      obtain ⟨gap, v⟩ := v
      obtain ⟨t, start', hscan, hvalue, hname⟩ :=
        v.scan (head_spaced_append hrest vs) (start + gap.chars.length)
      obtain ⟨ts, start'', hrest, hvalues, hnames⟩ := ih start'
      refine ⟨t :: ts, start'', ?_, ?_, List.forall_mem_cons.2 ⟨hname, hnames⟩⟩
      · rw [spaced_cons, List.append_assoc, List.append_assoc, Token.scanFrom_margin gap.isBlank, hscan, hrest,
          List.cons_append]
      · rw [List.map_cons, List.map_cons, hvalue, hvalues]

theorem Flag.scan (f : Flag) {rest : List Char} (hrest : ∀ c ∈ rest.head?, isBlankChar c = true) (start : Nat) :
    ∃ t ts start', Token.scanFrom start (f.text ++ rest) = t :: (ts ++ Token.scanFrom start' rest) ∧
      t.flagName? = some f.name ∧ ts.map (String.ofList ·.value) = f.values.map (String.ofList ·.2.value) ∧
      ∀ t ∈ ts, t.flagName? = none := by
  obtain ⟨ts, start', hscan, hvalues, hnames⟩ := scan_values hrest f.values (start + f.mark.length)
  refine ⟨⟨f.mark, start, f.mark.length, false⟩, ts, start', ?_, ?_, hvalues, hnames⟩
  · rw [text, List.append_assoc, Token.scanFrom_bare f.noBlank (List.cons_ne_nil _ _) (by simp [mark])
      (head_spaced_append hrest f.values), hscan]
  · exact if_pos f.isName

/-- Wherever the text stands, it is cut into flags with these names and values. -/
def IsCutInto (cs : List Char) (contents : List (String × List String)) : Prop :=
  ∀ start, ∃ fs, FlagTokens.split (Token.scanFrom start cs) = ([], fs) ∧ fs.map FlagTokens.content = contents

theorem Flag.isCutInto (f : Flag) {rest : List Char} {contents : List (String × List String)}
    (hrest : ∀ c ∈ rest.head?, isBlankChar c = true) (h : IsCutInto rest contents) :
    IsCutInto (f.text ++ rest) (f.content :: contents) := by
  intro start
  obtain ⟨t, ts, start', hscan, hname, hvalues, hnames⟩ := f.scan hrest start
  obtain ⟨fs, hsplit, hcontents⟩ := h start'
  refine ⟨⟨some (t, f.name), ts⟩ :: fs, ?_, ?_⟩
  · rw [hscan, FlagTokens.split_flag hname hnames, hsplit, List.append_nil]
  · rw [List.map_cons, hcontents, FlagTokens.content, hvalues]
    rfl

theorem isCutInto_spaced (fs : List (Gap × Flag)) : IsCutInto (spaced Flag.text fs) (fs.map (·.2.content)) := by
  induction fs with
  | nil => exact fun start => ⟨[], by rw [spaced, List.flatMap_nil, Token.scanFrom_nil, FlagTokens.split], rfl⟩
  | cons f fs ih =>
      obtain ⟨gap, f⟩ := f
      intro start
      rw [spaced_cons, Token.scanFrom_margin gap.isBlank]
      exact f.isCutInto (head_spaced fs) ih _

theorem FlagLine.isCutInto (l : FlagLine) : IsCutInto l.body (l.flags.map Flag.content) := by
  have h := l.first.isCutInto (head_spaced l.more) (isCutInto_spaced l.more)
  rw [flags, List.map_cons, List.map_map]
  exact h

theorem IsCutInto.named {cs : List Char} {contents : List (String × List String)} (h : IsCutInto cs contents) :
    (FlagTokens.named (Token.scan cs)).map FlagTokens.content = contents := by
  obtain ⟨fs, hsplit, hcontents⟩ := h 0
  rw [FlagTokens.named, Token.scan, hsplit, hcontents]

end Written

end Playbook
