import PropShape.Proofs.Json.Origin
import PropShape.Proofs.Json.Schema
import PropShape.Proofs.Json.Spelling

/-!
# `PropShape.Proofs.Json.Rendering`: renderings are read back

The rendering of a value is read back as the image of the value
(`Value.rendering_is_faithful`), if the numbers in the value are integers that
JSON writes exactly. A value that was read from JSON is its own image, so it is
read back as itself.

It is the image that has to stay within the nesting that is read
(`Json.maxNesting`). An element is rendered as an empty record, which is one
level more than the value has. Other numbers than integers are written with
digits that the reader may take for a neighbour
(`Value.rendering_not_read_back`).
-/

set_option autoImplicit false

namespace PropShape

namespace Value

variable {v : Value}

/-! ## Renderings -/

/-- A value is read from the document that a text spells. -/
theorem parse_of_spells {Means : Json.NumberMeaning} {d : Document} {text : String}
    (numbers : Means.Faithful) (spelled : Json.Spells Means d text.toList)
    (fits : d.nesting ≤ Json.maxNesting) (read : d.value? = some v) :
    Value.parse .json text = .ok v := by
  rw [Value.parse, TextFormat.parse_of_spells _ _ numbers (Json.spellsText_of_spells spelled),
    if_pos fits, read]

/-- What reading the rendering of a value makes of it. -/
theorem parse_json (integers : v.HoldsIntegers) :
    (v.image.nesting ≤ Json.maxNesting →
      ∃ w, Value.parse .json (v.json 0) = .ok w ∧ w.EqualInOrder v.image) ∧
    (Json.maxNesting < v.image.nesting → Value.parse .json (v.json 0) = .error .json) := by
  have spelled := spells_json integers 0
  rw [← nesting_document]
  -- Both parts read the same document; only its nesting decides.
  constructor
  · intro fits
    obtain ⟨w, read, same⟩ := value?_document v
    exact ⟨w, parse_of_spells Json.faithful_integers spelled fits read, same⟩
  · intro deep
    rw [Value.parse, TextFormat.parse_of_spells _ _ Json.faithful_integers
      (Json.spellsText_of_spells spelled), if_neg (Nat.not_le_of_lt deep)]

/-- A value that has a JSON form and is not nested too deeply is rendered. -/
theorem render?_eq_json (renderable : v.isRenderable = true) (shallow : v.nesting ≤ 127) :
    v.render? = some (v.json 0) := by
  -- Rendering gives up one level further than reading does.
  have notDeep : ¬ maxDepth < v.nesting := Nat.not_lt_of_le (Nat.le_succ_of_le shallow)
  rw [render?, renderable, Bool.not_true, if_neg Bool.false_ne_true, if_neg notDeep]

/-- Rendering is faithful. Take a value with a JSON form that is nested at most 127 deep and whose
finite numbers are integers of magnitude at most `2 ^ 53`. Its rendering is read as the image of
the value, with the fields of every record in the same order, if the image is nested at most 127
deep too, and is refused otherwise. A value with such numbers that was itself read from JSON is
read back as it was. -/
theorem rendering_is_faithful :
    (∀ v : Value, v.isRenderable = true → v.nesting ≤ 127 → v.HoldsIntegers →
      ∃ text, v.render? = some text ∧
        (v.image.nesting ≤ 127 →
          ∃ w, Value.parse .json text = .ok w ∧ w.EqualInOrder v.image) ∧
        (127 < v.image.nesting → Value.parse .json text = .error .json)) ∧
    ∀ (source : String) (v : Value), Value.parse .json source = .ok v → v.HoldsIntegers →
      ∃ text w, v.render? = some text ∧ Value.parse .json text = .ok w ∧ w.EqualInOrder v := by
  constructor
  · intro v renderable shallow integers
    exact ⟨v.json 0, render?_eq_json renderable shallow, parse_json integers⟩
  · intro source v read integers
    -- A value that was read is its own image, and is nested within the limit.
    have within := jsonWithin_of_parse read
    have fits : v.image.nesting ≤ 127 := by
      rw [within.image_eq]
      exact within.nesting_le
    obtain ⟨w, back, same⟩ := (parse_json integers).1 fits
    rw [within.image_eq] at same
    exact ⟨v.json 0, w, render?_eq_json within.isRenderable within.nesting_le, back, same⟩

/-! ### Values whose numbers are integers -/

/-- A value holds integers if it is none of the other numbers, and its parts hold integers. -/
theorem HoldsIntegers.of_parts (self : ∀ n, v = .number n → n.isFinite = true →
      ∃ i, n.toInt? = some i ∧ i.natAbs ≤ Nat.pow 2 53)
    (parts : ∀ part, v.Holds part → part.HoldsIntegers) : v.HoldsIntegers := by
  rintro n (rfl | inside) finite
  · exact self n rfl finite
  · obtain ⟨part, holds, deeper⟩ := Relation.TransGen.head'_iff.mp inside
    have occurs := (Relation.reflTransGen_iff_eq_or_transGen.mp deeper).imp_left Eq.symm
    exact parts part holds n occurs finite

/-- An array holds only integers if its items do. -/
theorem holdsIntegers_array {items : List Value} (h : ∀ item ∈ items, item.HoldsIntegers) :
    (Value.array items).HoldsIntegers := by
  refine .of_parts nofun fun part holds => ?_
  cases holds with
  | item mem => exact h part mem

/-- An integer of a magnitude up to `2 ^ 53` holds only integers. -/
theorem holdsIntegers_integer {n : Number} {i : Int} (integer : n.toInt? = some i)
    (small : i.natAbs ≤ Nat.pow 2 53) : (Value.number n).HoldsIntegers := by
  refine .of_parts ?_ nofun
  rintro _ ⟨⟩ -
  exact ⟨i, integer, small⟩

/-- There is no number in an undefined value. -/
theorem holdsIntegers_undefined : Value.undefined.HoldsIntegers := .of_parts nofun nofun

/-- There is no number in null. -/
theorem holdsIntegers_null : Value.null.HoldsIntegers := .of_parts nofun nofun

/-- The integer -7 stays what it is, and undefined becomes null. -/
theorem rendering_is_faithful_array :
    (∃ text w, (Value.array [.number ⟨0xC01C000000000000⟩, .undefined]).render? = some text ∧
      Value.parse .json text = .ok w ∧
      w.EqualInOrder (.array [.number ⟨0xC01C000000000000⟩, .null])) ∧
    ∃ text w, (Value.null).render? = some text ∧ Value.parse .json text = .ok w ∧
      w.EqualInOrder .null := by
  have integer : (Number.mk 0xC01C000000000000).toInt? = some (-7) := by decide +kernel
  have finite : (Number.mk 0xC01C000000000000).isFinite = true := by decide +kernel
  have integers : (Value.array [.number ⟨0xC01C000000000000⟩, .undefined]).HoldsIntegers := by
    refine holdsIntegers_array (List.forall_mem_cons.mpr ⟨?_, List.forall_mem_singleton.mpr ?_⟩)
    · exact holdsIntegers_integer integer (by decide)
    · exact holdsIntegers_undefined
  -- The image is written out, so that the nesting can be decided.
  have image : (Value.array [.number ⟨0xC01C000000000000⟩, .undefined]).image =
      .array [.number ⟨0xC01C000000000000⟩, .null] := by
    rw [image_array, List.map_cons, Value.image, if_pos finite]
    rfl
  constructor
  · obtain ⟨text, rendered, faithful, -⟩ :=
      rendering_is_faithful.1 _ (by rfl) (by decide) integers
    rw [image] at faithful
    obtain ⟨w, read, same⟩ := faithful (by decide)
    exact ⟨text, w, rendered, read, same⟩
  · have read : Value.parse .json "null" = .ok .null :=
      parse_of_spells Json.faithful_anyNumbers Json.spells_null (Nat.zero_le _) rfl
    exact rendering_is_faithful.2 "null" .null read holdsIntegers_null

/-! ### Renderings that are not read back -/

/-- An element inside of `n` arrays. -/
def elementWithin : Nat → Value
  | 0 => .element "div"
  | n + 1 => .array [elementWithin n]

/-- An element inside `n` arrays is nested `n` levels deep. -/
theorem nesting_elementWithin (n : Nat) : (elementWithin n).nesting = n := by
  induction n with
  | zero => rfl
  | succ n ih =>
    rw [elementWithin, nesting_array, List.map_singleton, ih, List.foldr_cons, List.foldr_nil,
      Nat.max_zero]

/-- Its image is nested one level deeper, since the element becomes an empty record. -/
theorem nesting_image_elementWithin (n : Nat) : (elementWithin n).image.nesting = n + 1 := by
  induction n with
  | zero => rfl
  | succ n ih =>
    rw [elementWithin, image_array, nesting_array, List.map_singleton, List.map_singleton, ih]
    rfl

/-- There is no number in an element inside arrays. -/
theorem holdsIntegers_elementWithin (n : Nat) : (elementWithin n).HoldsIntegers := by
  induction n with
  | zero => exact .of_parts nofun nofun
  | succ n ih => exact holdsIntegers_array (List.forall_mem_singleton.mpr ih)

/-- A text that is a number alone. -/
theorem parse_number {parts : Json.NumberParts} {n : Number} {text : String}
    (spelled : parts.Spells text.toList) (read : parts.number? = some n) :
    Value.parse .json text = .ok (.number n) :=
  parse_of_spells Json.faithful_anyNumbers (.number spelled read) (Nat.zero_le _) rfl

/-- A one with some digits after the point, times a power of ten. -/
theorem spells_small {fraction exponent : List Char} (places : ∀ c ∈ fraction, c.isDigit = true)
    (power : Json.Digits exponent) :
    (Json.NumberParts.mk false ['1'] fraction (some (-(Json.decimal exponent : Int)))).Spells
      ('1' :: (Json.fractionText fraction ++ 'e' :: '-' :: exponent)) := by
  have one : Json.Digits ['1'] := ⟨List.cons_ne_nil _ _, List.all_eq_true.mp rfl⟩
  exact .intro one (by rintro rest ⟨⟩) places (.minus (.inl rfl) power)

/-- Not every rendering is read back. An element inside of 127 arrays is rendered as an empty
record, which the reader does not enter any more; and a number that is read from its decimal digits
may be read differently from its own digits, if it is no integer. -/
theorem rendering_not_read_back :
    ((elementWithin 127).isRenderable = true ∧ (elementWithin 127).nesting = 127 ∧
      (elementWithin 127).HoldsIntegers ∧
      ∃ text, (elementWithin 127).render? = some text ∧
        Value.parse .json text = .error .json) ∧
    ∃ v w, Value.parse .json "1e-24" = .ok v ∧ v.render? = some "1.0000000000000001e-24" ∧
      Value.parse .json "1.0000000000000001e-24" = .ok w ∧ w.equals v = false := by
  constructor
  · -- The innermost element becomes an empty record, which is one level more.
    have deep : Json.maxNesting < (elementWithin 127).image.nesting := by
      rw [nesting_image_elementWithin]
      decide
    have integers := holdsIntegers_elementWithin 127
    have nesting := nesting_elementWithin 127
    exact ⟨rfl, nesting, integers, _, render?_eq_json rfl (Nat.le_of_eq nesting),
      (parse_json integers).2 deep⟩
  · -- The number that is read first has longer digits than the text, and these digits are read
    -- as the number next to it.
    have power : Json.Digits ['2', '4'] := ⟨List.cons_ne_nil _ _, List.all_eq_true.mp rfl⟩
    have text : (Number.mk 0x3AF357C299A88EA8).text jsonStyle = "1.0000000000000001e-24" := by
      decide +kernel
    have apart : (Number.mk 0x3AF357C299A88EA7).equals ⟨0x3AF357C299A88EA8⟩ = false := by
      decide +kernel
    have spelled := @spells_small [] _ nofun power
    have places := List.all_eq_true.mp (show "0000000000000001".toList.all Char.isDigit by decide)
    have spelled' := spells_small places power
    simp only [String.reduceToList, Json.fractionText, List.cons_append, List.nil_append]
      at spelled spelled'
    refine ⟨.number ⟨0x3AF357C299A88EA8⟩, .number ⟨0x3AF357C299A88EA7⟩,
      parse_number (by simpa only [String.reduceToList] using spelled) (by decide +kernel), ?_,
      parse_number (by simpa only [String.reduceToList] using spelled') (by decide +kernel), ?_⟩
    · rw [render?_eq_json rfl (Nat.zero_le _), json, text]
    · rw [equals, apart]

end Value

end PropShape
