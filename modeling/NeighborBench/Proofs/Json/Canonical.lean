import NeighborBench.Proofs.Json.Numbers
import NeighborBench.Proofs.Json.Strings

/-! # The canonical text tells values apart

A value's text determines the value and where the text ends, as long as what follows may follow a
value at all. Scalars stop at their last character or where the next one cannot belong to a number;
arrays and objects are a case of one statement about elements with commas between them.
-/

namespace NeighborBench.Json

/-! ## Values -/

/-- What a value can be: its doubles are finite, and its objects have each key once, in increasing
order. -/
inductive Regular : Json → Prop where
  | null : Regular .null
  | bool (value : Bool) : Regular (.bool value)
  | int (value : ℤ) : Regular (.int value)
  | float (value : Float) (finite : value.isFinite = true) : Regular (.float value)
  | string (value : String) : Regular (.string value)
  | array (items : List Json) (regular : ∀ item ∈ items, Regular item) : Regular (.array items)
  | object (fields : Fields) (sorted : fields.Pairwise fun f g => f.1 < g.1)
      (regular : ∀ field ∈ fields, Regular field.2) : Regular (.object fields)

/-! ## The texts of arrays and objects -/

theorem canonicalItems_eq (items : List Json) : canonicalItems items = items.map canonicalChars := by
  induction items with
  | nil => rfl
  | cons item rest ih => rw [canonicalItems, ih, List.map_cons]

theorem canonicalFields_eq (fields : Fields) :
    canonicalFields fields = fields.map fun field => (field.1, canonicalChars field.2) := by
  induction fields with
  | nil => rfl
  | cons field rest ih => rw [canonicalFields, ih, List.map_cons]

def fieldChars (field : String × Json) : List Char :=
  stringChars field.1 ++ ':' :: canonicalChars field.2

theorem canonicalChars_array (items : List Json) :
    canonicalChars (.array items) = '[' :: [','].intercalate (items.map canonicalChars) ++ [']'] := by
  rw [canonicalChars, canonicalItems_eq]

theorem canonicalChars_object (fields : Fields) (sorted : fields.Pairwise fun f g => f.1 < g.1) :
    canonicalChars (.object fields) = '{' :: [','].intercalate (fields.map fieldChars) ++ ['}'] := by
  have hordered : byKey (canonicalFields fields) = canonicalFields fields := by
    apply List.mergeSort_of_pairwise
    rw [canonicalFields_eq, List.pairwise_map]
    exact sorted.imp fun h => decide_eq_true (le_of_lt h)
  rw [canonicalChars, hordered, canonicalFields_eq, List.map_map]
  rfl

/-! ## Elements with commas between them -/

section

variable {α : Type} (render : α → List Char)

/-- The elements behind the first one. -/
def others (xs : List α) : List Char := xs.flatMap fun x => ',' :: render x

theorem intercalate_cons (x : α) (xs : List α) :
    [','].intercalate ((x :: xs).map render) = render x ++ others render xs := by
  induction xs generalizing x with
  | nil => simp [others]
  | cons y ys ih =>
    have hnext := ih y
    rw [List.map_cons] at hnext
    rw [List.map_cons, List.map_cons, List.intercalate_cons_cons, hnext]
    simp [others]

variable {render} {close : Char} (hclose : close = ']' ∨ close = '}')
include hclose

theorem ends_others (xs : List α) (rest : List Char) : Ends (others render xs ++ close :: rest) := by
  cases xs with
  | nil => rintro c ⟨⟩; exact .inr hclose
  | cons x xs => rintro c ⟨⟩; exact .inl rfl

theorem others_unique {xs ys : List α} {u v : List Char}
    (unique : ∀ x ∈ xs, ∀ y ∈ ys, ∀ u v, Ends u → Ends v →
      render x ++ u = render y ++ v → x = y ∧ u = v)
    (h : others render xs ++ close :: u = others render ys ++ close :: v) : xs = ys ∧ u = v := by
  -- A row that goes on does so with a comma, and one that ends with the bracket.
  have hcomma : close ≠ ',' := by rcases hclose with rfl | rfl <;> decide
  induction xs generalizing ys with
  | nil =>
    cases ys with
    | nil => exact ⟨rfl, (List.cons.inj h).2⟩
    | cons y ys => exact absurd (List.cons.inj h).1 hcomma
  | cons x xs ih =>
    cases ys with
    | nil => exact absurd (List.cons.inj h).1.symm hcomma
    | cons y ys =>
      have hsplit : render x ++ (others render xs ++ close :: u) =
          render y ++ (others render ys ++ close :: v) := by
        simpa [others] using h
      obtain ⟨rfl, hrest⟩ := unique x (by simp) y (by simp) _ _ (ends_others hclose xs u)
        (ends_others hclose ys v) hsplit
      obtain ⟨rfl, hends⟩ := ih
        (fun a ha b hb => unique a (by simp [ha]) b (by simp [hb])) hrest
      exact ⟨rfl, hends⟩

/-- Elements that are told apart one by one are told apart in a row that is closed. -/
theorem intercalate_unique {xs ys : List α} {u v : List Char}
    (unique : ∀ x ∈ xs, ∀ y ∈ ys, ∀ u v, Ends u → Ends v →
      render x ++ u = render y ++ v → x = y ∧ u = v)
    (starts : ∀ x ∈ xs ++ ys, ∃ c rest, render x = c :: rest ∧ c ≠ close)
    (h : [','].intercalate (xs.map render) ++ close :: u =
      [','].intercalate (ys.map render) ++ close :: v) : xs = ys ∧ u = v := by
  cases xs with
  | nil =>
    cases ys with
    | nil => exact ⟨rfl, (List.cons.inj h).2⟩
    | cons y ys =>
      obtain ⟨c, rest, hy, hne⟩ := starts y (by simp)
      rw [intercalate_cons, hy] at h
      exact absurd (List.cons.inj h).1.symm hne
  | cons x xs =>
    cases ys with
    | nil =>
      obtain ⟨c, rest, hx, hne⟩ := starts x (by simp)
      rw [intercalate_cons, hx] at h
      exact absurd (List.cons.inj h).1 hne
    | cons y ys =>
      rw [intercalate_cons, intercalate_cons, List.append_assoc, List.append_assoc] at h
      obtain ⟨rfl, hrest⟩ := unique x (by simp) y (by simp) _ _ (ends_others hclose xs u)
        (ends_others hclose ys v) h
      obtain ⟨rfl, hends⟩ := others_unique hclose
        (fun a ha b hb => unique a (by simp [ha]) b (by simp [hb])) hrest
      exact ⟨rfl, hends⟩

end

/-! ## The first character -/

inductive Shape where
  | null
  | bool
  | number
  | string
  | array
  | object

def shape : Json → Shape
  | null => .null
  | bool _ => .bool
  | int _ => .number
  | float _ => .number
  | string _ => .string
  | array _ => .array
  | object _ => .object

def shapeOf (c : Char) : Option Shape :=
  match c with
  | 'n' => some .null
  | 't' => some .bool
  | 'f' => some .bool
  | '"' => some .string
  | '[' => some .array
  | '{' => some .object
  | c => if c = '-' || c.isDigit then some .number else none

theorem shapeOf_digit (c : Char) (h : c.isDigit = true) : shapeOf c = some .number := by
  unfold shapeOf
  split
  case h_7 => simp [h]
  all_goals cases h

theorem Spelling.Valid.starts {s : Spelling} (valid : s.Valid) :
    ∃ c rest, s.chars = c :: rest ∧ shapeOf c = some .number := by
  obtain ⟨c, rest, hwhole⟩ := List.exists_cons_of_ne_nil valid.whole_ne
  have hdigit : c.isDigit = true := valid.whole c (by simp [hwhole])
  cases hsign : s.negative with
  | true => exact ⟨'-', _, by rw [Spelling.chars, hsign]; rfl, rfl⟩
  | false => exact ⟨c, _, by rw [Spelling.chars, hsign, hwhole]; rfl, shapeOf_digit c hdigit⟩

theorem Regular.starts {a : Json} (ha : a.Regular) :
    ∃ c rest, a.canonicalChars = c :: rest ∧ shapeOf c = some a.shape := by
  cases ha with
  | null => exact ⟨'n', _, rfl, rfl⟩
  | bool value =>
    cases value with
    | true => exact ⟨'t', _, rfl, rfl⟩
    | false => exact ⟨'f', _, rfl, rfl⟩
  | int i =>
    obtain ⟨c, rest, hchars, hshape⟩ := (intSpelling_valid i).starts
    exact ⟨c, rest, (intSpelling_chars i).symm.trans hchars, hshape⟩
  | float x finite =>
    obtain ⟨c, rest, hchars, hshape⟩ := (floatSpelling_valid x finite).starts
    exact ⟨c, rest, (floatSpelling_chars x finite).symm.trans hchars, hshape⟩
  | string s => exact ⟨'"', _, rfl, rfl⟩
  | array items => exact ⟨'[', _, canonicalChars_array items, rfl⟩
  | object fields sorted => exact ⟨'{', _, canonicalChars_object fields sorted, rfl⟩

theorem Regular.shape_eq {a b : Json} (ha : a.Regular) (hb : b.Regular) (u v : List Char)
    (h : a.canonicalChars ++ u = b.canonicalChars ++ v) : a.shape = b.shape := by
  obtain ⟨c, rest, hchars, hc⟩ := ha.starts
  obtain ⟨d, others, hchars', hd⟩ := hb.starts
  rw [hchars, hchars'] at h
  obtain rfl : c = d := (List.cons.inj h).1
  exact Option.some.inj (hc.symm.trans hd)

/-! ## Numbers -/

def spelling? : Json → Option Spelling
  | int i => some (intSpelling i)
  | float x => some (floatSpelling x)
  | _ => none

theorem Regular.spelling {a : Json} (ha : a.Regular) (hnumber : a.shape = .number) :
    ∃ s, a.spelling? = some s ∧ s.Valid ∧ s.chars = a.canonicalChars := by
  cases ha with
  | int i => exact ⟨_, rfl, intSpelling_valid i, intSpelling_chars i⟩
  | float x finite => exact ⟨_, rfl, floatSpelling_valid x finite, floatSpelling_chars x finite⟩
  | _ => cases hnumber

theorem Regular.eq_of_numeral_eq {a b : Json} (ha : a.Regular) (hb : b.Regular) {s t : Spelling}
    (hs : a.spelling? = some s) (ht : b.spelling? = some t) (h : s.numeral = t.numeral) : a = b := by
  cases ha with
  | int i =>
    cases hs
    cases hb with
    | int j => cases ht; rw [intSpelling_injective i j h]
    | float y => cases ht; exact absurd h.symm (floatSpelling_ne_int y i)
    | _ => cases ht
  | float x finite =>
    cases hs
    cases hb with
    | int j => cases ht; exact absurd h (floatSpelling_ne_int x j)
    | float y finite' => cases ht; rw [floatSpelling_injective x y finite finite' h]
    | _ => cases ht
  | _ => cases hs

theorem Regular.number_unique {a b : Json} (ha : a.Regular) (hb : b.Regular)
    (hnumber : a.shape = .number) {u v : List Char} (hu : Ends u) (hv : Ends v)
    (h : a.canonicalChars ++ u = b.canonicalChars ++ v) : a = b ∧ u = v := by
  obtain ⟨s, hs, valid, hchars⟩ := ha.spelling hnumber
  obtain ⟨t, ht, valid', hchars'⟩ := hb.spelling ((ha.shape_eq hb u v h).symm.trans hnumber)
  rw [← hchars, ← hchars'] at h
  obtain ⟨hnumeral, hrest⟩ := valid.numeral_eq valid' u v hu hv h
  exact ⟨ha.eq_of_numeral_eq hb hs ht hnumeral, hrest⟩

/-! ## Whole values -/

theorem field_starts (field : String × Json) :
    ∃ c rest, fieldChars field = c :: rest ∧ c ≠ '}' :=
  ⟨'"', _, rfl, by decide⟩

theorem Regular.item_starts {a : Json} (ha : a.Regular) :
    ∃ c rest, a.canonicalChars = c :: rest ∧ c ≠ ']' := by
  obtain ⟨c, rest, hchars, hshape⟩ := ha.starts
  refine ⟨c, rest, hchars, ?_⟩
  rintro rfl
  cases hshape

theorem fieldChars_unique {f g : String × Json} {u v : List Char}
    (values : f.2.canonicalChars ++ u = g.2.canonicalChars ++ v → f.2 = g.2 ∧ u = v)
    (h : fieldChars f ++ u = fieldChars g ++ v) : f = g ∧ u = v := by
  rw [fieldChars, fieldChars, List.append_assoc, List.append_assoc] at h
  obtain ⟨hkey, hvalues⟩ := stringChars_unique f.1 g.1 _ _ h
  obtain ⟨hvalue, hrest⟩ := values (List.cons.inj hvalues).2
  exact ⟨Prod.ext hkey hvalue, hrest⟩

/-- The text of a value is told from that of any other, whatever may follow the two. -/
theorem Regular.canonicalChars_unique {a b : Json} (ha : a.Regular) (hb : b.Regular) {u v : List Char}
    (hu : Ends u) (hv : Ends v) (h : a.canonicalChars ++ u = b.canonicalChars ++ v) :
    a = b ∧ u = v := by
  -- The first character gives `b` the shape of `a`; the elements are told apart by induction.
  induction ha generalizing b u v with
  | null =>
    have hshape := Regular.shape_eq .null hb u v h
    cases hb with
    | null => exact ⟨rfl, List.append_cancel_left h⟩
    | _ => cases hshape
  | bool value =>
    have hshape := Regular.shape_eq (.bool value) hb u v h
    cases hb with
    | bool value' =>
      cases value <;> cases value'
      case true.true | false.false => exact ⟨rfl, List.append_cancel_left h⟩
      all_goals cases h
    | _ => cases hshape
  | int i => exact Regular.number_unique (.int i) hb rfl hu hv h
  | float x finite => exact Regular.number_unique (.float x finite) hb rfl hu hv h
  | string s =>
    have hshape := Regular.shape_eq (.string s) hb u v h
    cases hb with
    | string t =>
      obtain ⟨rfl, hrest⟩ := stringChars_unique s t u v h
      exact ⟨rfl, hrest⟩
    | _ => cases hshape
  | array items regular ih =>
    have hshape := Regular.shape_eq (.array items regular) hb u v h
    cases hb with
    | array items' regular' =>
      rw [canonicalChars_array, canonicalChars_array] at h
      have hrow : [','].intercalate (items.map canonicalChars) ++ ']' :: u =
          [','].intercalate (items'.map canonicalChars) ++ ']' :: v := by
        simpa using h
      obtain ⟨rfl, hrest⟩ := intercalate_unique (.inl rfl)
        (fun x hx y hy u v hu hv => ih x hx (regular' y hy) hu hv)
        (fun x hx => (List.mem_append.mp hx).elim (fun hx => (regular x hx).item_starts)
          (fun hx => (regular' x hx).item_starts)) hrow
      exact ⟨rfl, hrest⟩
    | _ => cases hshape
  | object fields sorted regular ih =>
    have hshape := Regular.shape_eq (.object fields sorted regular) hb u v h
    cases hb with
    | object fields' sorted' regular' =>
      rw [canonicalChars_object fields sorted, canonicalChars_object fields' sorted'] at h
      have hrow : [','].intercalate (fields.map fieldChars) ++ '}' :: u =
          [','].intercalate (fields'.map fieldChars) ++ '}' :: v := by
        simpa using h
      obtain ⟨rfl, hrest⟩ := intercalate_unique (.inr rfl)
        (fun f hf g hg u v hu hv => fieldChars_unique (ih f hf (regular' g hg) hu hv))
        (fun f _ => field_starts f) hrow
      exact ⟨rfl, hrest⟩
    | _ => cases hshape

theorem Regular.canonicalText_injective {a b : Json} (ha : a.Regular) (hb : b.Regular)
    (h : a.canonicalText = b.canonicalText) : a = b := by
  have hends : Ends [] := by simp [Ends, Starts]
  have hchars : a.canonicalChars ++ [] = b.canonicalChars ++ [] := by
    rw [List.append_nil, List.append_nil]
    exact String.ofList_injective h
  exact (ha.canonicalChars_unique hb hends hends hchars).1

end NeighborBench.Json
