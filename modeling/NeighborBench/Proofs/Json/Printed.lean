import NeighborBench.Proofs.Json.Numbers
import NeighborBench.Proofs.Json.Reader

/-! # Printed values are read back

The text of a value is in the grammar, on one line or indented: both are the same elements between the
same marks, with blanks or without. So the reader makes one tree of the value, whichever text it gets.
-/

namespace NeighborBench.Json

/-! ## Trees of values -/

mutual

/-- What the text of a value is read as. There is no number for a double that is not finite. -/
def tree : Json → Tree
  | null => .null
  | bool b => .bool b
  | int i => .number (intSpelling i).numeral
  | float x => if x.isFinite then .number (floatSpelling x).numeral else .null
  | string s => .string (some s)
  | array items => .array (itemTrees items)
  | object fields => .object (fieldTrees fields)

def itemTrees : List Json → List Tree
  | [] => []
  | item :: rest => tree item :: itemTrees rest

def fieldTrees : List (String × Json) → List (Option String × Tree)
  | [] => []
  | (key, value) :: rest => (some key, tree value) :: fieldTrees rest

end

theorem itemTrees_eq (items : List Json) : itemTrees items = items.map tree := by
  induction items with
  | nil => simp [itemTrees]
  | cons item rest ih => simp [itemTrees, ih]

theorem fieldTrees_eq (fields : Fields) :
    fieldTrees fields = fields.map fun field => (some field.1, tree field.2) := by
  induction fields with
  | nil => simp [fieldTrees]
  | cons field rest ih => simp [fieldTrees, ih]

/-- Induction over a value: items and the values of fields come before what holds them. -/
@[elab_as_elim]
theorem induction_on {P : Json → Prop} (null : P .null) (bool : ∀ b, P (.bool b))
    (int : ∀ i, P (.int i)) (float : ∀ x, P (.float x)) (string : ∀ s, P (.string s))
    (array : ∀ items, (∀ item ∈ items, P item) → P (.array items))
    (object : ∀ fields, (∀ field ∈ fields, P field.2) → P (.object fields)) (v : Json) : P v := by
  match v with
  | .null => exact null
  | .bool b => exact bool b
  | .int i => exact int i
  | .float x => exact float x
  | .string s => exact string s
  | .array items =>
    exact array items fun item _ => induction_on null bool int float string array object item
  | .object fields =>
    exact object fields fun field _ =>
      induction_on null bool int float string array object field.2
termination_by sizeOf v
decreasing_by
  · have := List.sizeOf_lt_of_mem ‹item ∈ items›
    simp only [Json.array.sizeOf_spec]
    omega
  · have := List.sizeOf_lt_of_mem ‹field ∈ fields›
    obtain ⟨key, value⟩ := field
    simp only [Json.object.sizeOf_spec, Prod.mk.sizeOf_spec] at *
    omega

/-! ## Scalars -/

theorem floatChars_of_not_finite (x : Float) (h : ¬x.isFinite = true) :
    floatChars x = "null".toList := by
  have hexponent := mt (Double.isFinite_iff x).mpr h
  simp only [floatChars, not_not.mp hexponent, if_true]

theorem floatChars_writes (x : Float) : (tree (.float x)).Writes ((floatChars x).map some) := by
  unfold tree
  split
  · next finite =>
    rw [← floatSpelling_chars x finite]
    exact .number (floatSpelling_valid x finite).writes
  · next infinite =>
    rw [floatChars_of_not_finite x infinite]
    exact .null

theorem stringChars_writes (s : String) : WritesString (some s) ((stringChars s).map some) := by
  have hpieces := WritesString.text (escaped_writes s.toList) (map_pieceOf_spells s.toList)
  rw [String.ofList_toList] at hpieces
  simpa [stringChars] using hpieces

/-! ## Elements and blanks -/

theorem intercalate_concat_append {α : Type} (sep : List α) (xss : List (List α)) (x y : List α) :
    sep.intercalate (xss ++ [x ++ y]) = sep.intercalate (xss ++ [x]) ++ y := by
  induction xss with
  | nil => simp
  | cons first rest ih =>
    cases rest with
    | nil => simp [List.intercalate_cons_cons]
    | cons second rest =>
      simp only [List.cons_append, List.intercalate_cons_cons, List.append_assoc] at ih ⊢
      rw [ih]

theorem map_intercalate {α β : Type} (f : α → β) (sep : List α) (xss : List (List α)) :
    (sep.intercalate xss).map f = (sep.map f).intercalate (xss.map (List.map f)) := by
  induction xss with
  | nil => simp
  | cons first rest ih =>
    cases rest with
    | nil => simp
    | cons second rest =>
      simp only [List.map_cons, List.intercalate_cons_cons, List.map_append] at ih ⊢
      rw [ih]

namespace Tree

theorem Writes.items_before {items : List (Tree × Glyphs)} (ne : items ≠ [])
    (writes : ∀ i ∈ items, Writes i.1 i.2) {b : Glyphs} (blank : Blank b) :
    Writes (.array (items.map Prod.fst))
      (some '[' :: [some ','].intercalate (items.map Prod.snd) ++ b ++ [some ']']) := by
  rcases List.eq_nil_or_concat items with rfl | ⟨front, last, rfl⟩
  · exact absurd rfl ne
  · -- The blank before the bracket belongs to the last item.
    rw [List.concat_eq_append] at *
    have hrow := @Writes.items (front ++ [(last.1, last.2 ++ b)]) (by simp) (by
      intro i hi
      rcases List.mem_append.mp hi with hi | hi
      · exact writes i (by simp [hi])
      · obtain rfl := List.mem_singleton.mp hi
        exact (writes last (by simp)).before blank)
    simpa [bracketed, intercalate_concat_append] using hrow

theorem Writes.fields_before {fields : List WrittenField} (ne : fields ≠ [])
    (keys : ∀ f ∈ fields, WritesKey f.key f.keyText)
    (values : ∀ f ∈ fields, Writes f.value f.valueText) {b : Glyphs} (blank : Blank b) :
    Writes (.object (fields.map WrittenField.field))
      (some '{' :: [some ','].intercalate (fields.map WrittenField.text) ++ b ++ [some '}']) := by
  rcases List.eq_nil_or_concat fields with rfl | ⟨front, last, rfl⟩
  · exact absurd rfl ne
  · rw [List.concat_eq_append] at *
    have hrow := @Writes.fields (front ++ [{ last with valueText := last.valueText ++ b }])
      (by simp) (by
        intro f hf
        rcases List.mem_append.mp hf with hf | hf
        · exact keys f (by simp [hf])
        · obtain rfl := List.mem_singleton.mp hf
          exact keys last (by simp)) (by
        intro f hf
        rcases List.mem_append.mp hf with hf | hf
        · exact values f (by simp [hf])
        · obtain rfl := List.mem_singleton.mp hf
          exact (values last (by simp)).before blank)
    have htext : WrittenField.text { last with valueText := last.valueText ++ b } =
        last.text ++ b := by
      simp [WrittenField.text]
    rw [List.map_append, List.map_singleton, List.map_append, List.map_singleton, bracketed, htext,
      intercalate_concat_append] at hrow
    simpa [WrittenField.field] using hrow

end Tree

/-! ## Arrays and objects -/

section

variable (before after : List Char) (hbefore : Blank (before.map some))
  (hafter : Blank (after.map some)) (render : Json → List Char)
include hbefore hafter

theorem array_writes {items : List Json} (ne : items ≠ [])
    (writes : ∀ item ∈ items, (tree item).Writes ((render item).map some)) :
    (tree (.array items)).Writes
      (('[' :: [','].intercalate (items.map fun item => before ++ render item) ++ after ++
        [']']).map some) := by
  have hrow := @Tree.Writes.items_before
    (items.map fun item => (tree item, (before ++ render item).map some))
    (by simpa using ne) (by
      intro i hi
      obtain ⟨item, hitem, rfl⟩ := List.mem_map.mp hi
      simp only [List.map_append]
      exact (writes item hitem).behind hbefore) _ hafter
  simpa [tree, itemTrees_eq, map_intercalate, Function.comp_def] using hrow

theorem object_writes (gap : List Char) (hgap : Blank (gap.map some)) {fields : Fields}
    (ne : fields ≠ [])
    (writes : ∀ field ∈ fields, (tree field.2).Writes ((render field.2).map some)) :
    (tree (.object fields)).Writes
      (('{' :: [','].intercalate (fields.map fun field =>
        before ++ stringChars field.1 ++ ':' :: (gap ++ render field.2)) ++ after ++
        ['}']).map some) := by
  have hrow := @Tree.Writes.fields_before
    (fields.map fun field => ⟨some field.1, tree field.2,
      (before ++ stringChars field.1).map some, (gap ++ render field.2).map some⟩)
    (by simpa using ne) (by
      intro f hf
      obtain ⟨field, -, rfl⟩ := List.mem_map.mp hf
      have hblank : Blank [] := nofun
      have hkey := WritesKey.mk hbefore (stringChars_writes field.1) hblank
      simpa using hkey) (by
      intro f hf
      obtain ⟨field, hfield, rfl⟩ := List.mem_map.mp hf
      simp only [List.map_append]
      exact (writes field hfield).behind hgap) _ hafter
  simpa [tree, fieldTrees_eq, map_intercalate, Function.comp_def, WrittenField.field,
    WrittenField.text] using hrow

end

/-! ## Compact text -/

theorem itemsChars_eq (items : List Json) : itemsChars items = [','].intercalate (items.map chars) := by
  induction items with
  | nil => simp [itemsChars]
  | cons item rest ih =>
    cases rest with
    | nil => simp [itemsChars]
    | cons next rest =>
      rw [itemsChars, ih]
      simp [List.intercalate_cons_cons]

theorem fieldsChars_eq (fields : Fields) :
    fieldsChars fields =
      [','].intercalate (fields.map fun field => stringChars field.1 ++ ':' :: chars field.2) := by
  induction fields with
  | nil => simp [fieldsChars]
  | cons field rest ih =>
    cases rest with
    | nil => simp [fieldsChars]
    | cons next rest =>
      rw [fieldsChars, ih]
      simp [List.intercalate_cons_cons]

theorem chars_writes (v : Json) : (tree v).Writes (v.chars.map some) := by
  induction v using induction_on with
  | null => exact .null
  | bool b => cases b <;> exact .bool _
  | int i =>
    rw [chars, ← intSpelling_chars]
    exact .number (intSpelling_valid i).writes
  | float x => exact floatChars_writes x
  | string s => exact .string (stringChars_writes s)
  | array items ih =>
    by_cases ne : items = []
    · subst ne
      exact .noItems (b := []) nofun
    · have hwrites := array_writes [] [] nofun nofun chars ne ih
      simpa [chars, itemsChars_eq] using hwrites
  | object fields ih =>
    by_cases ne : fields = []
    · subst ne
      exact .noFields (b := []) nofun
    · have hwrites := object_writes [] [] nofun nofun chars [] nofun ne ih
      simpa [chars, fieldsChars_eq] using hwrites

/-! ## Indented text -/

theorem newline_blank (depth : Nat) : Blank ((newline depth).map some) := by
  intro c hc
  simp only [newline, List.map_cons, List.map_replicate, List.mem_cons] at hc
  rcases hc with rfl | hc
  · simp
  · rw [List.eq_of_mem_replicate hc]
    simp

theorem prettyItems_eq (depth : Nat) (items : List Json) :
    prettyItems depth items =
      [','].intercalate (items.map fun item => newline depth ++ prettyChars depth item) := by
  induction items with
  | nil => simp [prettyItems]
  | cons item rest ih =>
    cases rest with
    | nil => simp [prettyItems]
    | cons next rest =>
      rw [prettyItems, ih]
      simp [List.intercalate_cons_cons]

theorem prettyFields_eq (depth : Nat) (fields : Fields) :
    prettyFields depth fields =
      [','].intercalate (fields.map fun field =>
        newline depth ++ stringChars field.1 ++ ':' :: ([' '] ++ prettyChars depth field.2)) := by
  induction fields with
  | nil => simp [prettyFields]
  | cons field rest ih =>
    cases rest with
    | nil => simp [prettyFields]
    | cons next rest =>
      rw [prettyFields, ih]
      simp [List.intercalate_cons_cons]

theorem prettyChars_writes (v : Json) (depth : Nat) :
    (tree v).Writes ((prettyChars depth v).map some) := by
  induction v using induction_on generalizing depth with
  | null | bool | int | float | string =>
    -- These are printed on one line.
    rw [prettyChars]
    · exact chars_writes _
    all_goals nofun
  | array items ih =>
    by_cases ne : items = []
    · subst ne
      rw [prettyChars]
      exact .noItems (b := []) nofun
    · have hwrites := array_writes _ _ (newline_blank (depth + 1)) (newline_blank depth)
        (prettyChars (depth + 1)) ne fun item hitem => ih item hitem (depth + 1)
      rw [prettyChars, prettyItems_eq]
      · exact hwrites
      · simpa using ne
  | object fields ih =>
    by_cases ne : fields = []
    · subst ne
      rw [prettyChars]
      exact .noFields (b := []) nofun
    · have hwrites := object_writes _ _ (newline_blank (depth + 1)) (newline_blank depth)
        (prettyChars (depth + 1)) [' '] (by simp [Blank]) ne
        fun field hfield => ih field hfield (depth + 1)
      rw [prettyChars, prettyFields_eq]
      · exact hwrites
      · simpa using ne

/-! ## Reading -/

theorem ofText?_text (v : Json) : Tree.ofText? v.text = some (tree v) := by
  apply (Tree.ofGlyphs?_eq_some_iff _ _).mpr
  rw [Text.whole, text, String.toList_ofList]
  exact chars_writes v

theorem ofText?_prettyText (v : Json) : Tree.ofText? v.prettyText = some (tree v) := by
  apply (Tree.ofGlyphs?_eq_some_iff _ _).mpr
  rw [Text.whole, prettyText, String.toList_ofList]
  exact prettyChars_writes v 0

/-! ## Numbers -/

/-- The text of a number is read as that number. One of many digits may be read as one beside it. -/
def ReadsBack (x : Float) : Prop := (Tree.ofText? (float x).text).bind Tree.asFloat? = some x

theorem readsBack_iff_tree (x : Float) : ReadsBack x ↔ (tree (.float x)).asFloat? = some x := by
  unfold ReadsBack
  rw [ofText?_text, Option.bind_some]

theorem readsBack_iff (x : Float) :
    ReadsBack x ↔ x.isFinite = true ∧ (floatSpelling x).numeral.asFloat? = some x := by
  rw [readsBack_iff_tree, tree]
  by_cases finite : x.isFinite = true
  · simp [finite, Tree.asFloat?]
  · simp [finite, Tree.asFloat?]

end NeighborBench.Json
