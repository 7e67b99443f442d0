import NeighborBench.Proofs.Json.Grammar

/-! # The reader accepts the grammar

What the reader takes was written as the grammar has it, and what is so written the reader takes. Each
half is one step of the reader for a tree, for items and for fields, and an induction: on the fuel for
what was read, on the writing for what is read.
-/

namespace NeighborBench.Json

/-! ## Elements -/

section

variable {α β : Type} (value : α → β) (text : α → Glyphs) (close : Char)

/-- A text begins with elements, commas between them, and the bracket that closes them. -/
def ElementsBegin (written : α → Prop) (ys : List β) (g rest : Glyphs) : Prop :=
  ∃ xs : List α, xs ≠ [] ∧ (∀ x ∈ xs, written x) ∧ ys = xs.map value ∧
    g = [some ','].intercalate (xs.map text) ++ some close :: rest

variable {value text close} {written : α → Prop}

theorem ElementsBegin.last {x : α} (h : written x) (rest : Glyphs) :
    ElementsBegin value text close written [value x] (text x ++ some close :: rest) rest :=
  ⟨[x], by simp, by simpa using h, rfl, by simp⟩

theorem ElementsBegin.cons {x : α} (h : written x) {ys : List β} {g rest : Glyphs}
    (others : ElementsBegin value text close written ys g rest) :
    ElementsBegin value text close written (value x :: ys) (text x ++ some ',' :: g) rest := by
  obtain ⟨xs, hne, hwritten, rfl, rfl⟩ := others
  refine ⟨x :: xs, by simp, List.forall_mem_cons.mpr ⟨h, hwritten⟩, rfl, ?_⟩
  obtain ⟨y, xs, rfl⟩ := List.exists_cons_of_ne_nil hne
  simp [List.intercalate_cons_cons]

end

theorem elements_read {α β : Type} (value : α → β) (text : α → Glyphs) (close : Char)
    (read : Nat → Glyphs → Option (List β × Glyphs)) (rest : Glyphs) (xs : List α) (ne : xs ≠ [])
    (last : ∀ x ∈ xs, ∀ fuel, 2 * (text x).length ≤ fuel →
      read (fuel + 1) (text x ++ some close :: rest) = some ([value x], rest))
    (cons : ∀ x ∈ xs, ∀ fuel g ys, 2 * (text x).length ≤ fuel → read fuel g = some (ys, rest) →
      read (fuel + 1) (text x ++ some ',' :: g) = some (value x :: ys, rest))
    (fuel : Nat) (hfuel : 2 * ([some ','].intercalate (xs.map text)).length + 3 ≤ fuel) :
    read fuel ([some ','].intercalate (xs.map text) ++ some close :: rest) =
      some (xs.map value, rest) := by
  induction xs generalizing fuel with
  | nil => exact absurd rfl ne
  | cons x xs ih =>
    obtain ⟨fuel, rfl⟩ : ∃ f, fuel = f + 1 := ⟨fuel - 1, by omega⟩
    cases xs with
    | nil =>
      simp only [List.map_cons, List.map_nil, List.intercalate_singleton] at hfuel ⊢
      exact last x List.mem_cons_self fuel (by omega)
    | cons y xs =>
      have hothers := ih (by simp) (fun z hz => last z (List.mem_cons_of_mem x hz))
        (fun z hz => cons z (List.mem_cons_of_mem x hz)) fuel
      simp only [List.map_cons, List.intercalate_cons_cons, List.length_append, List.length_cons,
        List.append_assoc, List.singleton_append] at hfuel hothers ⊢
      exact cons x List.mem_cons_self fuel _ _ (by omega) (hothers (by omega))

namespace Tree

def ItemsBegin : List Tree → Glyphs → Glyphs → Prop :=
  ElementsBegin Prod.fst Prod.snd ']' fun i : Tree × Glyphs => i.1.Writes i.2

def FieldsBegin : List (Option String × Tree) → Glyphs → Glyphs → Prop :=
  ElementsBegin WrittenField.field WrittenField.text '}' fun f =>
    WritesKey f.key f.keyText ∧ f.value.Writes f.valueText

/-- A text begins with that of a tree. -/
def Begins (t : Tree) (g rest : Glyphs) : Prop := ∃ x, t.Writes x ∧ g = x ++ rest

theorem ItemsBegin.array {ts : List Tree} {g rest : Glyphs} (h : ItemsBegin ts g rest) :
    (array ts).Begins (some '[' :: g) rest := by
  obtain ⟨items, hne, hwrites, rfl, rfl⟩ := h
  exact ⟨_, .items hne hwrites, by simp [bracketed]⟩

theorem FieldsBegin.object {fs : List (Option String × Tree)} {g rest : Glyphs}
    (h : FieldsBegin fs g rest) : (object fs).Begins (some '{' :: g) rest := by
  obtain ⟨fields, hne, hwrites, rfl, rfl⟩ := h
  exact ⟨_, .fields hne (fun f hf => (hwrites f hf).1) fun f hf => (hwrites f hf).2,
    by simp [bracketed]⟩

theorem Begins.behind {t : Tree} {g rest : Glyphs} (h : t.Begins (skipBlanks g) rest) :
    t.Begins g rest := by
  obtain ⟨b, blank, htext⟩ := skipBlanks_sound g
  obtain ⟨x, writes, hx⟩ := h
  exact ⟨b ++ x, writes.behind blank, by rw [htext, hx, List.append_assoc]⟩

/-! ## Blanks in front -/

theorem value?_skipBlanks (fuel : Nat) (g : Glyphs) : value? fuel (skipBlanks g) = value? fuel g := by
  cases fuel with
  | zero => rfl
  | succ fuel => rw [value?, value?, skipBlanks_twice]

theorem items?_skipBlanks (fuel : Nat) (g : Glyphs) : items? fuel (skipBlanks g) = items? fuel g := by
  cases fuel with
  | zero => rfl
  | succ fuel => rw [items?, items?, value?_skipBlanks]

theorem fields?_skipBlanks (fuel : Nat) (g : Glyphs) :
    fields? fuel (skipBlanks g) = fields? fuel g := by
  cases fuel with
  | zero => rfl
  | succ fuel => rw [fields?, fields?, skipBlanks_twice]

/-! ## What is read was written -/

section

variable {fuel : Nat}
  (ihValue : ∀ {g rest t}, value? fuel g = some (t, rest) → t.Begins g rest)
  (ihItems : ∀ {g rest ts}, items? fuel g = some (ts, rest) → ItemsBegin ts g rest)
  (ihFields : ∀ {g rest fs}, fields? fuel g = some (fs, rest) → FieldsBegin fs g rest)

include ihItems ihFields in
theorem value?_step {g rest : Glyphs} {t : Tree} (h : value? (fuel + 1) g = some (t, rest)) :
    t.Begins g rest := by
  rw [value?] at h
  apply Begins.behind
  split at h
  · -- `null`, and then the two truth values.
    next heq =>
    cases h
    exact ⟨_, .null, heq⟩
  · next heq =>
    cases h
    exact ⟨_, .bool true, heq⟩
  · next heq =>
    cases h
    exact ⟨_, .bool false, heq⟩
  · -- A string.
    next left heq =>
    obtain ⟨⟨s, rest⟩, hstring, h⟩ := Option.map_eq_some_iff.mp h
    cases h
    obtain ⟨x, writes, htext⟩ := string?_sound hstring
    exact ⟨x, .string writes, by rw [heq, htext]⟩
  · -- An array, which may be closed at once.
    next left heq =>
    rw [heq]
    split at h
    · next hclose =>
      cases h
      obtain ⟨b, blank, htext⟩ := skipBlanks_sound left
      exact ⟨_, .noItems blank, by rw [htext, hclose]; simp [bracketed]⟩
    · rw [items?_skipBlanks] at h
      obtain ⟨⟨items, rest⟩, hitems, h⟩ := Option.map_eq_some_iff.mp h
      cases h
      exact (ihItems hitems).array
  · -- An object, which may be closed at once.
    next left heq =>
    rw [heq]
    split at h
    · next hclose =>
      cases h
      obtain ⟨b, blank, htext⟩ := skipBlanks_sound left
      exact ⟨_, .noFields blank, by rw [htext, hclose]; simp [bracketed]⟩
    · rw [fields?_skipBlanks] at h
      obtain ⟨⟨fields, rest⟩, hfields, h⟩ := Option.map_eq_some_iff.mp h
      cases h
      exact (ihFields hfields).object
  · -- Whatever begins with anything else is a number.
    obtain ⟨⟨n, rest⟩, hnumber, h⟩ := Option.map_eq_some_iff.mp h
    cases h
    obtain ⟨cs, writes, htext⟩ := numeral?_sound hnumber
    exact ⟨_, .number writes, htext⟩

include ihValue ihItems in
theorem items?_step {g rest : Glyphs} {ts : List Tree} (h : items? (fuel + 1) g = some (ts, rest)) :
    ItemsBegin ts g rest := by
  rw [items?] at h
  obtain ⟨⟨t, left⟩, hvalue, hnext⟩ := Option.bind_eq_some_iff.mp h
  obtain ⟨x, writes, rfl⟩ := ihValue hvalue
  obtain ⟨b, blank, htext⟩ := skipBlanks_sound left
  have hitem : t.Writes (x ++ b) := writes.before blank
  rw [htext, ← List.append_assoc]
  simp only at hnext
  -- Behind an item the array ends, or a comma and other items follow.
  split at hnext
  · next heq =>
    cases hnext
    rw [heq]
    exact ElementsBegin.last (x := (t, x ++ b)) hitem rest
  · next heq =>
    obtain ⟨⟨more, left⟩, hmore, hnext⟩ := Option.bind_eq_some_iff.mp hnext
    cases hnext
    rw [heq]
    exact ElementsBegin.cons (x := (t, x ++ b)) hitem (ihItems hmore)
  · cases hnext

include ihValue ihFields in
theorem fields?_step {g rest : Glyphs} {fs : List (Option String × Tree)}
    (h : fields? (fuel + 1) g = some (fs, rest)) : FieldsBegin fs g rest := by
  obtain ⟨b, blank, htext⟩ := skipBlanks_sound g
  rw [fields?] at h
  split at h
  · next afterQuote hquote =>
    obtain ⟨⟨key, afterKey⟩, hkey, h⟩ := Option.bind_eq_some_iff.mp h
    obtain ⟨x, writesKey, hx⟩ := string?_sound hkey
    obtain ⟨b', blank', hafter⟩ := skipBlanks_sound afterKey
    simp only at h
    split at h
    · next afterColon hcolon =>
      obtain ⟨⟨t, left⟩, hvalue, hnext⟩ := Option.bind_eq_some_iff.mp h
      obtain ⟨y, writes, rfl⟩ := ihValue hvalue
      obtain ⟨c, blank'', hleft⟩ := skipBlanks_sound left
      -- The blanks around the key belong to it, and those behind the value to that.
      let field : WrittenField := ⟨key, t, b ++ x ++ b', y ++ c⟩
      have hfield : WritesKey field.key field.keyText ∧ field.value.Writes field.valueText :=
        ⟨.mk blank writesKey blank', writes.before blank''⟩
      have hg : g = field.text ++ skipBlanks left := by
        rw [htext, hquote, hx, hafter, hcolon, hleft]
        simp [field, WrittenField.text, skipBlanks_append blank'', skipBlanks_twice]
      rw [hg]
      simp only at hnext
      split at hnext
      · next heq =>
        cases hnext
        rw [heq]
        exact ElementsBegin.last (x := field) hfield rest
      · next heq =>
        obtain ⟨⟨more, left⟩, hmore, hnext⟩ := Option.bind_eq_some_iff.mp hnext
        cases hnext
        rw [heq]
        exact ElementsBegin.cons (x := field) hfield (ihFields hmore)
      · cases hnext
    · cases h
  · cases h

end

theorem read_sound (fuel : Nat) :
    (∀ {g rest t}, value? fuel g = some (t, rest) → t.Begins g rest) ∧
    (∀ {g rest ts}, items? fuel g = some (ts, rest) → ItemsBegin ts g rest) ∧
    (∀ {g rest fs}, fields? fuel g = some (fs, rest) → FieldsBegin fs g rest) := by
  induction fuel with
  | zero => exact ⟨nofun, nofun, nofun⟩
  | succ fuel ih =>
    obtain ⟨ihValue, ihItems, ihFields⟩ := ih
    exact ⟨value?_step ihItems ihFields, items?_step ihValue ihItems,
      fields?_step ihValue ihFields⟩

/-! ## What is written is read -/

/-- Whatever may follow the text, the reader takes the tree and leaves what follows, or also blanks
in front of that. -/
def ReadBack (t : Tree) (x : Glyphs) : Prop :=
  ∀ fuel rest, 2 * x.length ≤ fuel → Stops rest →
    ∃ left, value? fuel (x ++ rest) = some (t, left) ∧ skipBlanks left = skipBlanks rest

theorem ReadBack.padded {t : Tree} {b x b' : Glyphs} (before : Blank b) (h : t.ReadBack x)
    (after : Blank b') : t.ReadBack (b ++ x ++ b') := by
  intro fuel rest hfuel stops
  simp only [List.length_append] at hfuel
  obtain ⟨left, hread, hleft⟩ := h fuel (b' ++ rest) (by omega) (after.stops stops)
  refine ⟨left, ?_, by rw [hleft, skipBlanks_append after]⟩
  rw [← value?_skipBlanks, List.append_assoc, List.append_assoc, skipBlanks_append before,
    value?_skipBlanks, hread]

theorem value?_number {n : Numeral} {cs : List Char} (h : WritesNumeral n cs) (fuel : Nat)
    {rest : Glyphs} (stops : Stops rest) :
    value? (fuel + 1) (cs.map some ++ rest) = some (.number n, rest) := by
  have hread := h.numeral? stops
  obtain ⟨c, cs, rfl, hc⟩ := h.head
  -- A sign or a digit begins no other tree and is no blank.
  have hfirst : ∀ d left, (c :: cs).map some ++ rest = some d :: left →
      d = '-' ∨ d.isDigit = true := by
    intro d left heq
    obtain ⟨hhead, -⟩ := List.cons.inj heq
    rwa [← Option.some.inj hhead]
  have hskip : skipBlanks ((c :: cs).map some ++ rest) = (c :: cs).map some ++ rest := by
    unfold skipBlanks
    split
    case h_5 => rfl
    all_goals
      next heq => simpa using hfirst _ _ heq
  rw [value?, hskip]
  split
  case h_7 =>
    rw [hread]
    rfl
  all_goals
    next heq => simpa using hfirst _ _ heq

theorem ReadBack.items?_last {t : Tree} {x : Glyphs} (h : t.ReadBack x) {fuel : Nat}
    (hfuel : 2 * x.length ≤ fuel) (rest : Glyphs) :
    items? (fuel + 1) (x ++ some ']' :: rest) = some ([t], rest) := by
  obtain ⟨left, hread, hleft⟩ := h fuel (some ']' :: rest) hfuel (stops_mark (by simp) rest)
  rw [items?, hread]
  simp only [bind, Option.bind, hleft]
  rfl

theorem ReadBack.items?_cons {t : Tree} {x : Glyphs} (h : t.ReadBack x) {fuel : Nat}
    (hfuel : 2 * x.length ≤ fuel) {g rest : Glyphs} {ts : List Tree}
    (others : items? fuel g = some (ts, rest)) :
    items? (fuel + 1) (x ++ some ',' :: g) = some (t :: ts, rest) := by
  obtain ⟨left, hread, hleft⟩ := h fuel (some ',' :: g) hfuel (stops_mark (by simp) g)
  have hskip : skipBlanks (some ',' :: g) = some ',' :: g := rfl
  rw [items?, hread]
  simp only [bind, Option.bind, hleft, hskip, others]

theorem fields?_key {f : WrittenField} (key : WritesKey f.key f.keyText) (fuel : Nat)
    (rest : Glyphs) :
    fields? (fuel + 1) (f.text ++ rest) = (do
      let (value, rest) ← value? fuel (f.valueText ++ rest)
      match skipBlanks rest with
      | some '}' :: rest => some ([(f.key, value)], rest)
      | some ',' :: rest =>
        let (fields, rest) ← fields? fuel rest
        some ((f.key, value) :: fields, rest)
      | _ => none) := by
  obtain ⟨body, left, hquote, hstring, hcolon⟩ := key.read (f.valueText ++ rest)
  rw [fields?, WrittenField.text, List.append_assoc, List.cons_append, hquote]
  simp only [bind, Option.bind, hstring]
  generalize skipBlanks left = found at hcolon ⊢
  subst hcolon
  rfl

theorem ReadBack.fields?_last {f : WrittenField} (key : WritesKey f.key f.keyText)
    (h : f.value.ReadBack f.valueText) {fuel : Nat} (hfuel : 2 * f.text.length ≤ fuel)
    (rest : Glyphs) :
    fields? (fuel + 1) (f.text ++ some '}' :: rest) = some ([f.field], rest) := by
  simp only [WrittenField.text, List.length_append, List.length_cons] at hfuel
  obtain ⟨left, hread, hleft⟩ := h fuel (some '}' :: rest) (by omega) (stops_mark (by simp) rest)
  rw [fields?_key key, hread]
  simp only [bind, Option.bind, hleft]
  rfl

theorem ReadBack.fields?_cons {f : WrittenField} (key : WritesKey f.key f.keyText)
    (h : f.value.ReadBack f.valueText) {fuel : Nat} (hfuel : 2 * f.text.length ≤ fuel)
    {g rest : Glyphs} {fs : List (Option String × Tree)} (others : fields? fuel g = some (fs, rest)) :
    fields? (fuel + 1) (f.text ++ some ',' :: g) = some (f.field :: fs, rest) := by
  simp only [WrittenField.text, List.length_append, List.length_cons] at hfuel
  obtain ⟨left, hread, hleft⟩ := h fuel (some ',' :: g) (by omega) (stops_mark (by simp) g)
  have hskip : skipBlanks (some ',' :: g) = some ',' :: g := rfl
  rw [fields?_key key, hread]
  simp only [bind, Option.bind, hleft, hskip, others]
  rfl

theorem items?_close (fuel : Nat) (rest : Glyphs) : items? fuel (some ']' :: rest) = none := by
  -- No item begins with the bracket that closes an array.
  match fuel with
  | 0 | 1 | fuel + 2 => rfl

theorem fields?_close (fuel : Nat) (rest : Glyphs) : fields? fuel (some '}' :: rest) = none := by
  cases fuel <;> rfl

theorem value?_array {fuel : Nat} {g rest : Glyphs} {ts : List Tree}
    (h : items? fuel g = some (ts, rest)) :
    value? (fuel + 1) (some '[' :: g) = some (.array ts, rest) := by
  have hopen : skipBlanks (some '[' :: g) = some '[' :: g := rfl
  rw [← items?_skipBlanks] at h
  rw [value?, hopen]
  simp only
  split
  · next heq =>
    rw [heq, items?_close] at h
    cases h
  · rw [h]
    rfl

theorem value?_object {fuel : Nat} {g rest : Glyphs} {fs : List (Option String × Tree)}
    (h : fields? fuel g = some (fs, rest)) :
    value? (fuel + 1) (some '{' :: g) = some (.object fs, rest) := by
  have hopen : skipBlanks (some '{' :: g) = some '{' :: g := rfl
  rw [← fields?_skipBlanks] at h
  rw [value?, hopen]
  simp only
  split
  · next heq =>
    rw [heq, fields?_close] at h
    cases h
  · rw [h]
    rfl

theorem value?_noItems {b : Glyphs} (blank : Blank b) (fuel : Nat) (rest : Glyphs) :
    value? (fuel + 1) (some '[' :: (b ++ some ']' :: rest)) = some (.array [], rest) := by
  have hopen : ∀ g, skipBlanks (some '[' :: g) = some '[' :: g := fun _ => rfl
  have hclose : skipBlanks (some ']' :: rest) = some ']' :: rest := rfl
  rw [value?, hopen]
  simp only [skipBlanks_append blank, hclose]

theorem value?_noFields {b : Glyphs} (blank : Blank b) (fuel : Nat) (rest : Glyphs) :
    value? (fuel + 1) (some '{' :: (b ++ some '}' :: rest)) = some (.object [], rest) := by
  have hopen : ∀ g, skipBlanks (some '{' :: g) = some '{' :: g := fun _ => rfl
  have hclose : skipBlanks (some '}' :: rest) = some '}' :: rest := rfl
  rw [value?, hopen]
  simp only [skipBlanks_append blank, hclose]

theorem readBack_of_step {t : Tree} {x : Glyphs} (writes : t.Writes x)
    (h : ∀ fuel rest, 2 * x.length ≤ fuel + 1 → Stops rest →
      value? (fuel + 1) (x ++ rest) = some (t, rest)) : t.ReadBack x := by
  intro fuel rest hfuel stops
  have hpos := writes.ne_nil
  obtain ⟨fuel, rfl⟩ : ∃ f, fuel = f + 1 := ⟨fuel - 1, by omega⟩
  exact ⟨rest, h fuel rest hfuel stops, rfl⟩

theorem length_bracketed (first last : Char) (texts : List Glyphs) :
    (bracketed first last texts).length = ([some ','].intercalate texts).length + 2 := by
  simp [bracketed]

theorem bracketed_append (first last : Char) (texts : List Glyphs) (rest : Glyphs) :
    bracketed first last texts ++ rest =
      some first :: ([some ','].intercalate texts ++ some last :: rest) := by
  simp [bracketed]

theorem Writes.readBack {t : Tree} {x : Glyphs} (writes : t.Writes x) : t.ReadBack x := by
  induction writes with
  | padded before _ after ih => exact ih.padded before after
  | null => exact readBack_of_step .null fun fuel rest _ _ => rfl
  | bool b =>
    refine readBack_of_step (.bool b) fun fuel rest _ _ => ?_
    cases b <;> rfl
  | number writes =>
    exact readBack_of_step (.number writes) fun fuel rest _ stops => value?_number writes fuel stops
  | string writes =>
    refine readBack_of_step (.string writes) fun fuel rest _ _ => ?_
    obtain ⟨body, hquote, hstring⟩ := writes.string? rest
    have hskip : skipBlanks (some '"' :: body) = some '"' :: body := rfl
    rw [hquote, value?, hskip]
    simp only [hstring, Option.map_some]
  | noItems blank =>
    refine readBack_of_step (.noItems blank) fun fuel rest _ _ => ?_
    rw [bracketed_append, List.intercalate_singleton]
    exact value?_noItems blank fuel rest
  | noFields blank =>
    refine readBack_of_step (.noFields blank) fun fuel rest _ _ => ?_
    rw [bracketed_append, List.intercalate_singleton]
    exact value?_noFields blank fuel rest
  | @items items ne writes ih =>
    refine readBack_of_step (.items ne writes) fun fuel rest hfuel _ => ?_
    rw [length_bracketed] at hfuel
    rw [bracketed_append]
    exact value?_array (elements_read Prod.fst Prod.snd ']' items? rest items ne
      (fun i hi _ hfuel => (ih i hi).items?_last hfuel rest)
      (fun i hi _ _ _ hfuel others => (ih i hi).items?_cons hfuel others) fuel (by omega))
  | @fields fields ne keys values ih =>
    refine readBack_of_step (.fields ne keys values) fun fuel rest hfuel _ => ?_
    rw [length_bracketed] at hfuel
    rw [bracketed_append]
    exact value?_object (elements_read WrittenField.field WrittenField.text '}' fields? rest fields ne
      (fun f hf _ hfuel => (ih f hf).fields?_last (keys f hf) hfuel rest)
      (fun f hf _ _ _ hfuel others => (ih f hf).fields?_cons (keys f hf) hfuel others) fuel (by omega))

/-! ## Whole texts -/

/-- The reader accepts the texts that write a tree, and no others. -/
theorem ofGlyphs?_eq_some_iff (g : Glyphs) (t : Tree) : ofGlyphs? g = some t ↔ t.Writes g := by
  unfold ofGlyphs?
  constructor
  · intro h
    split at h
    · next found rest hread =>
      split at h
      · next hempty =>
        cases h
        obtain ⟨x, writes, rfl⟩ := (read_sound _).1 hread
        obtain ⟨b, blank, htext⟩ := skipBlanks_sound rest
        rw [List.isEmpty_iff.mp hempty, List.append_nil] at htext
        rw [htext]
        exact writes.before blank
      · cases h
    · cases h
  · -- The fuel is twice the length of the text and more, and what is left is nothing or blank.
    intro writes
    obtain ⟨left, hread, hleft⟩ := writes.readBack (2 * g.length + 2) [] (by omega) nofun
    rw [List.append_nil] at hread
    rw [hread]
    simp only [hleft]
    rfl

theorem Writes.unique {t u : Tree} {g : Glyphs} (ht : t.Writes g) (hu : u.Writes g) : t = u := by
  have h := (ofGlyphs?_eq_some_iff g t).mpr ht
  rw [(ofGlyphs?_eq_some_iff g u).mpr hu] at h
  exact (Option.some.inj h).symm

end Tree

end NeighborBench.Json
