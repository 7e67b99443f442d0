import NeighborBench.Proofs.Json.Numeral
import NeighborBench.Proofs.Json.Strings

/-! # The grammar of JSON

Which texts write a tree: a tree's text may have blanks around it, elements have commas between them,
and strings may hold glyphs that spell nothing. The reader accepts just these texts.
-/

namespace NeighborBench.Json

/-! ## Blanks -/

def Blank (g : Glyphs) : Prop := ∀ c ∈ g, c ∈ [some ' ', some '\n', some '\t', some '\r']

theorem skipBlanks_append {b : Glyphs} (blank : Blank b) (rest : Glyphs) :
    skipBlanks (b ++ rest) = skipBlanks rest := by
  induction b with
  | nil => rfl
  | cons c b ih =>
    have hread := ih fun d hd => blank d (List.mem_cons_of_mem c hd)
    have hc := blank c List.mem_cons_self
    simp only [List.mem_cons, List.not_mem_nil, or_false] at hc
    rcases hc with rfl | rfl | rfl | rfl <;> exact hread

theorem skipBlanks_sound (g : Glyphs) : ∃ b, Blank b ∧ g = b ++ skipBlanks g := by
  fun_induction skipBlanks g with
  | case5 g => exact ⟨[], nofun, rfl⟩
  | case1 rest ih | case2 rest ih | case3 rest ih | case4 rest ih =>
    obtain ⟨b, blank, htext⟩ := ih
    refine ⟨_ :: b, ?_, congrArg (_ :: ·) htext⟩
    intro c hc
    rcases List.mem_cons.mp hc with rfl | hc
    · simp
    · exact blank c hc

theorem skipBlanks_twice (g : Glyphs) : skipBlanks (skipBlanks g) = skipBlanks g := by
  obtain ⟨b, blank, htext⟩ := skipBlanks_sound g
  conv => rhs; rw [htext, skipBlanks_append blank]

theorem Blank.stops {b : Glyphs} (blank : Blank b) {rest : Glyphs} (stops : Stops rest) :
    Stops (b ++ rest) := by
  cases b with
  | nil => exact stops
  | cons g b =>
    have hg := blank g List.mem_cons_self
    simp only [List.mem_cons, List.not_mem_nil, or_false] at hg
    rintro _ ⟨⟩ c hc
    rcases hg with rfl | rfl | rfl | rfl <;> cases hc <;> decide

/-! ## Trees -/

/-- A field and how its parts are written. -/
structure WrittenField where
  key : Option String
  value : Tree
  keyText : Glyphs
  valueText : Glyphs

namespace WrittenField

def field (f : WrittenField) : Option String × Tree := (f.key, f.value)

def text (f : WrittenField) : Glyphs := f.keyText ++ some ':' :: f.valueText

end WrittenField

/-- A key may have blanks around it. -/
inductive WritesKey : Option String → Glyphs → Prop where
  | mk {key : Option String} {b x b' : Glyphs} (before : Blank b) (writes : WritesString key x)
      (after : Blank b') : WritesKey key (b ++ x ++ b')

theorem WritesKey.read {key : Option String} {text : Glyphs} (h : WritesKey key text)
    (rest : Glyphs) :
    ∃ body left, skipBlanks (text ++ some ':' :: rest) = some '"' :: body ∧
      string? body = some (key, left) ∧ skipBlanks left = some ':' :: rest := by
  obtain @⟨b, x, b', before, writes, after⟩ := h
  obtain ⟨body, hquote, hstring⟩ := writes.string? (b' ++ some ':' :: rest)
  refine ⟨body, _, ?_, hstring, ?_⟩
  · rw [List.append_assoc, List.append_assoc, skipBlanks_append before, hquote]
    rfl
  · rw [skipBlanks_append after]
    rfl

/-- Texts with commas between them and brackets around. -/
def bracketed (first last : Char) (texts : List Glyphs) : Glyphs :=
  some first :: [some ','].intercalate texts ++ [some last]

/-- The texts that write a tree. -/
inductive Tree.Writes : Tree → Glyphs → Prop where
  | null : Writes .null (Text.whole "null")
  | bool (b : Bool) : Writes (.bool b) (Text.whole (if b then "true" else "false"))
  | number {n : Numeral} {cs : List Char} (writes : WritesNumeral n cs) :
      Writes (.number n) (cs.map some)
  | string {s : Option String} {x : Glyphs} (writes : WritesString s x) : Writes (.string s) x
  | noItems {b : Glyphs} (blank : Blank b) : Writes (.array []) (bracketed '[' ']' [b])
  | items {items : List (Tree × Glyphs)} (ne : items ≠ []) (writes : ∀ i ∈ items, Writes i.1 i.2) :
      Writes (.array (items.map Prod.fst)) (bracketed '[' ']' (items.map Prod.snd))
  | noFields {b : Glyphs} (blank : Blank b) : Writes (.object []) (bracketed '{' '}' [b])
  | fields {fields : List WrittenField} (ne : fields ≠ [])
      (keys : ∀ f ∈ fields, WritesKey f.key f.keyText)
      (values : ∀ f ∈ fields, Writes f.value f.valueText) :
      Writes (.object (fields.map WrittenField.field))
        (bracketed '{' '}' (fields.map WrittenField.text))
  | padded {t : Tree} {b x b' : Glyphs} (before : Blank b) (writes : Writes t x) (after : Blank b') :
      Writes t (b ++ x ++ b')

namespace Tree

theorem Writes.ne_nil {t : Tree} {x : Glyphs} (h : t.Writes x) : 0 < x.length := by
  induction h with
  | null => decide
  | bool b => cases b <;> decide
  | number writes =>
    obtain ⟨digits, -, -, -⟩ := writes
    have := List.length_pos_of_ne_nil digits.ne
    simp only [List.length_map, List.length_append]
    omega
  | string writes =>
    obtain ⟨ps, y, -, -, rfl⟩ := writes.pieces
    simp
  | noItems | items | noFields | fields => simp [bracketed]
  | padded before writes after ih =>
    simp only [List.length_append]
    omega

theorem Writes.behind {t : Tree} {b x : Glyphs} (blank : Blank b) (writes : t.Writes x) :
    t.Writes (b ++ x) := by
  rw [← List.append_nil (b ++ x)]
  exact writes.padded blank nofun

theorem Writes.before {t : Tree} {x b : Glyphs} (writes : t.Writes x) (blank : Blank b) :
    t.Writes (x ++ b) := writes.padded (b := []) nofun blank

end Tree

end NeighborBench.Json
