import PropShape.Proofs.Agreement
import PropShape.Proofs.StrictPart
import PropShape.Value.Equality

/-!
# `PropShape.Proofs.Value.Equality`: equality one level at a time

Two values are equal if they have the same form, equal leaves and equal parts
in the same places, fields being placed by their names. `Value.Corresponds`
says this for an arbitrary comparison of the parts, and `equals_iff` that
equality is what compares its parts by itself.

* `equals_symm` and `equals_trans`: equality is symmetric and transitive. It
  is not reflexive, because of NaN.
* `Value.Same` adds what is missing: two values are the same if they are the
  very same value, or equal. Same values have same parts
  (`Value.Same.corresponds`), so whatever takes values apart step by step can
  be compared on them. A dotted path reads same values from them
  (`Record.Same.lookup?`), and a list of allowed values lists both or neither
  (`any_equals_of_same`).
-/

set_option autoImplicit false

namespace PropShape

/-! ## Numbers -/

namespace Number

variable {a b c : Number}

/-- Equal numbers are both zero or both not. -/
theorem isZero_eq_of_equals (h : a.equals b = true) : a.isZero = b.isZero := by
  simp only [equals, Bool.and_eq_true, Bool.or_eq_true, beq_iff_eq] at h
  rcases h.2 with word | ⟨zero, zero'⟩
  · rw [isZero, isZero, code, code, word]
  · rw [zero, zero']

/-- NaN is the only number that is not equal to itself. -/
theorem equals_self_iff : a.equals a = true ↔ a.isNaN = false := by
  simp [equals]

/-- Equality of numbers is symmetric. -/
theorem equals_symm (h : a.equals b = true) : b.equals a = true := by
  simp only [equals, Bool.and_eq_true, Bool.or_eq_true, beq_iff_eq] at h ⊢
  obtain ⟨⟨ha, hb⟩, same | ⟨zero, zero'⟩⟩ := h
  · exact ⟨⟨hb, ha⟩, .inl same.symm⟩
  · exact ⟨⟨hb, ha⟩, .inr ⟨zero', zero⟩⟩

/-- Equality of numbers is transitive; the zeros are the only different words that are equal. -/
theorem equals_trans (h : a.equals b = true) (h' : b.equals c = true) : a.equals c = true := by
  have zeros : a.isZero = b.isZero := isZero_eq_of_equals h
  have zeros' : b.isZero = c.isZero := isZero_eq_of_equals h'
  simp only [equals, Bool.and_eq_true, Bool.or_eq_true, beq_iff_eq] at h h' ⊢
  obtain ⟨⟨ha, -⟩, first⟩ := h
  obtain ⟨⟨-, hc⟩, second⟩ := h'
  refine ⟨⟨ha, hc⟩, ?_⟩
  rcases first with word | ⟨zero, -⟩
  · rcases second with word' | ⟨zero, zero'⟩
    · exact .inl (word.trans word')
    · exact .inr ⟨zeros.trans zero, zero'⟩
  · exact .inr ⟨zero, (zeros.trans zeros').symm.trans zero⟩

end Number

namespace Value

/-! ## One level of a comparison -/

/-- Two values have the same form, corresponding numbers, and corresponding parts. -/
inductive Corresponds (N : Number → Number → Prop) (R : Value → Value → Prop) :
    Value → Value → Prop
  | undefined : Corresponds N R .undefined .undefined
  | null : Corresponds N R .null .null
  | bool (b : Bool) : Corresponds N R (.bool b) (.bool b)
  | number {m n : Number} (h : N m n) : Corresponds N R (.number m) (.number n)
  | string (text : String) : Corresponds N R (.string text) (.string text)
  | symbol {s t : Symbol} (h : s.identity = t.identity) : Corresponds N R (.symbol s) (.symbol t)
  | function {f g : Function} (h : f.identity = g.identity) :
    Corresponds N R (.function f) (.function g)
  | date (d : Date) : Corresponds N R (.date d) (.date d)
  | array {items others : List Value} (h : List.Forall₂ R items others) :
    Corresponds N R (.array items) (.array others)
  | object {record other : Record} (className : record.className = other.className)
    (fields : record.fields.Agree R other.fields) :
    Corresponds N R (.object record) (.object other)
  | element (tag : String) : Corresponds N R (.element tag) (.element tag)

namespace Corresponds

variable {N N' : Number → Number → Prop} {R S : Value → Value → Prop} {v w u : Value}

/-- The comparison of the parts may be replaced by one that holds between the parts. -/
theorem imp (h : Corresponds N R v w) (numbers : ∀ m n, N m n → N' m n)
    (parts : ∀ p q, v.Holds p → w.Holds q → R p q → S p q) : Corresponds N' S v w := by
  cases h with
  | undefined => exact .undefined
  | null => exact .null
  | bool b => exact .bool b
  | number h => exact .number (numbers _ _ h)
  | string text => exact .string text
  | symbol h => exact .symbol h
  | function h => exact .function h
  | date d => exact .date d
  | array h => exact .array (forall₂_imp_mem h fun p q hp hq => parts p q (.item hp) (.item hq))
  | object className fields =>
    refine .object className (fields.imp fun key p q hp hq => ?_)
    exact parts p q (.field hp) (.field hq)
  | element tag => exact .element tag

/-- A correspondence may be read from the other side. -/
theorem flip (h : Corresponds N R v w) :
    Corresponds (fun n m => N m n) (fun q p => R p q) w v := by
  cases h with
  | undefined => exact .undefined
  | null => exact .null
  | bool b => exact .bool b
  | number h => exact .number h
  | string text => exact .string text
  | symbol h => exact .symbol h.symm
  | function h => exact .function h.symm
  | date d => exact .date d
  | array h => exact .array h.flip
  | object className fields => exact .object className.symm fields.flip
  | element tag => exact .element tag

/-- Two correspondences compose to one. -/
theorem comp (h : Corresponds N R v w) (h' : Corresponds N' S w u) :
    Corresponds (Relation.Comp N N') (Relation.Comp R S) v u := by
  cases h with
  | undefined =>
    cases h'
    exact .undefined
  | null =>
    cases h'
    exact .null
  | bool b =>
    cases h'
    exact .bool b
  | number h =>
    cases h' with
    | number h' => exact .number ⟨_, h, h'⟩
  | string text =>
    cases h'
    exact .string text
  | symbol h =>
    cases h' with
    | symbol h' => exact .symbol (h.trans h')
  | function h =>
    cases h' with
    | function h' => exact .function (h.trans h')
  | date d =>
    cases h'
    exact .date d
  | array h =>
    cases h' with
    | array h' => exact .array (forall₂_comp h h')
  | object className fields =>
    cases h' with
    | object className' fields' =>
      exact .object (className.trans className') (fields.comp fields')
  | element tag =>
    cases h'
    exact .element tag

/-- A value corresponds to itself for reflexive relations of numbers and of parts. -/
theorem refl (numbers : ∀ n, N n n) (parts : ∀ p, R p p) (v : Value) : Corresponds N R v v := by
  cases v with
  | undefined => exact .undefined
  | null => exact .null
  | bool b => exact .bool b
  | number n => exact .number (numbers n)
  | string text => exact .string text
  | symbol s => exact .symbol rfl
  | function f => exact .function rfl
  | date d => exact .date d
  | array items => exact .array (List.forall₂_same.mpr fun p _ => parts p)
  | object record => exact .object rfl (OrderedMap.agree_refl fun _ p _ => parts p)
  | element tag => exact .element tag

end Corresponds

/-! ## Equality -/

variable {v w u : Value}

/-- Equality of lists of items is equality one by one. -/
theorem equalItems_iff {items others : List Value} :
    equalItems items others = true ↔ List.Forall₂ (fun v w => v.equals w = true) items others := by
  induction items generalizing others with
  | nil => cases others <;> simp [equalItems]
  | cons item rest ih => cases others <;> simp [equalItems, ih]

/-- One side of the comparison of records: each field has an equal one under its name in the
map. -/
theorem fieldsWithin_iff {keys : List String} {fields : Entries String Value keys}
    {map : OrderedMap String Value} :
    fieldsWithin fields map = true ↔
      ∀ pair ∈ fields.toList, ∃ held, map.get? pair.1 = some held ∧
        pair.2.equals held = true := by
  induction fields with
  | nil => simp [fieldsWithin, Entries.toList]
  | cons key value rest fresh ih =>
    rw [fieldsWithin, Entries.toList, List.forall_mem_cons, Bool.and_eq_true, ih]
    cases map.get? key <;> simp

/-- Records are equal exactly if they have the same class name and agree in their fields, in any
order. -/
theorem equals_object_iff {record other : Record} :
    (Value.object record).equals (.object other) = true ↔
      record.className = other.className ∧
        record.fields.Agree (fun v w => v.equals w = true) other.fields := by
  obtain ⟨className, ⟨keys, fields⟩⟩ := record
  rw [equals, Bool.and_eq_true, Bool.and_eq_true, beq_iff_eq, beq_iff_eq, fieldsWithin_iff,
    OrderedMap.agree_iff, and_assoc]
  rfl

/-- Equality compares numbers as numbers, and parts by itself. -/
theorem equals_iff :
    v.equals w = true ↔
      Corresponds (fun m n => m.equals n = true) (fun v w => v.equals w = true) v w := by
  constructor
  · intro h
    unfold equals at h
    -- The cases are those of the comparison; values of different kinds are in the last one.
    split at h
    · exact .undefined
    · exact .null
    · rw [beq_iff_eq.mp h]
      exact .bool _
    · exact .number h
    · rw [beq_iff_eq.mp h]
      exact .string _
    · exact .symbol (beq_iff_eq.mp h)
    · exact .function (beq_iff_eq.mp h)
    · rw [beq_iff_eq.mp h]
      exact .date _
    · exact .array (equalItems_iff.mp h)
    · obtain ⟨className, fields⟩ := equals_object_iff.mp (by rwa [equals])
      exact .object className fields
    · rw [beq_iff_eq.mp h]
      exact .element _
    · cases h
  · intro h
    cases h with
    | number h => rwa [equals]
    | symbol h => rwa [equals, beq_iff_eq]
    | function h => rwa [equals, beq_iff_eq]
    | array h => rwa [equals, equalItems_iff]
    | object className fields => exact equals_object_iff.mpr ⟨className, fields⟩
    | _ => simp [equals]

/-- Equality of values is symmetric. -/
theorem equals_symm (h : v.equals w = true) : w.equals v = true := by
  induction v using strongRecursion generalizing w with
  | step v ih =>
    refine equals_iff.mpr ((equals_iff.mp h).flip.imp (fun _ _ => Number.equals_symm) ?_)
    exact fun p q _ hq hpq => ih q hq.sizeOf_lt hpq

/-- Equality of values is transitive. -/
theorem equals_trans (h : v.equals w = true) (h' : w.equals u = true) : v.equals u = true := by
  induction v using strongRecursion generalizing w u with
  | step v ih =>
    refine equals_iff.mpr (((equals_iff.mp h).comp (equals_iff.mp h')).imp ?_ ?_)
    · rintro m n ⟨middle, first, second⟩
      exact Number.equals_trans first second
    · rintro p q hp - ⟨middle, first, second⟩
      exact ih p hp.sizeOf_lt first second

/-! ## The same or an equal value -/

/-- The very same value, or an equal one. -/
def Same (v w : Value) : Prop := v = w ∨ v.equals w = true

/-- A value is the same as itself, even where it is not equal to itself. -/
theorem Same.refl (v : Value) : v.Same v := .inl rfl

/-- Being the same or equal is transitive. -/
theorem Same.trans {u : Value} (h : u.Same v) (h' : v.Same w) : u.Same w := by
  rcases h with rfl | equal
  · exact h'
  · rcases h' with rfl | equal'
    · exact .inr equal
    · exact .inr (equals_trans equal equal')

/-- The parts of same values are the same. -/
theorem Same.corresponds (h : v.Same w) :
    Corresponds (fun m n => m = n ∨ m.equals n = true) Same v w := by
  rcases h with rfl | equal
  · exact .refl (fun _ => .inl rfl) Same.refl v
  · exact (equals_iff.mp equal).imp (fun _ _ => .inr) fun _ _ _ _ => .inr

/-- Equality does not tell same values apart. -/
theorem equals_eq_of_same {a b : Value} (h : a.Same b) (h' : v.Same w) :
    a.equals v = b.equals w := by
  have left : a.equals v = b.equals v := by
    rcases h with rfl | equal
    · rfl
    · exact Bool.eq_iff_iff.mpr ⟨equals_trans (equals_symm equal), equals_trans equal⟩
  have right : b.equals v = b.equals w := by
    rcases h' with rfl | equal
    · rfl
    · exact Bool.eq_iff_iff.mpr ⟨fun listed => equals_trans listed equal,
        fun listed => equals_trans listed (equals_symm equal)⟩
  exact left.trans right

/-- A list of allowed values holds a value exactly if a list of the same values holds the
same value. -/
theorem any_equals_of_same {values others : List Value} (h : List.Forall₂ Same values others)
    (same : v.Same w) :
    (values.any fun allowed => allowed.equals v) = others.any fun allowed => allowed.equals w := by
  induction h with
  | nil => rfl
  | cons first rest ih => rw [List.any_cons, List.any_cons, ih, equals_eq_of_same first same]

end Value

/-- Records of the same class or none, with the same fields. -/
structure Record.Same (record other : Record) : Prop where
  className : record.className = other.className
  fields : record.fields.Agree Value.Same other.fields

/-- Equal records are instances together. -/
theorem Record.Same.isInstance_eq {record other : Record} (h : record.Same other) :
    record.isInstance = other.isInstance := by
  rw [Record.isInstance, Record.isInstance, h.className]

namespace Value.Same

variable {v w : Value}

/-- Equal values are of the same kind. -/
theorem kind_eq (h : v.Same w) : v.kind = w.kind := by
  cases h.corresponds with
  | object className fields =>
    simp only [kind, Record.Same.isInstance_eq ⟨className, fields⟩]
  | _ => rfl

/-- Equal values are undefined together. -/
theorem isUndefined_eq (h : v.Same w) : v.isUndefined = w.isUndefined := by
  cases h.corresponds <;> rfl

/-- Equal values are arrays together, with items that are equal one by one. -/
theorem asArray? (h : v.Same w) :
    Option.Rel (List.Forall₂ Value.Same) v.asArray? w.asArray? := by
  cases h.corresponds with
  | array items => exact .some items
  | _ => exact .none

/-- Equal values are records together, and these are equal. -/
theorem asRecord? (h : v.Same w) : Option.Rel Record.Same v.asRecord? w.asRecord? := by
  cases h.corresponds with
  | object className fields => exact .some ⟨className, fields⟩
  | _ => exact .none

/-- Equal values are plain records together, and these are equal. -/
theorem asPlainRecord? (h : v.Same w) :
    Option.Rel Record.Same v.asPlainRecord? w.asPlainRecord? := by
  cases h.corresponds with
  | object className fields =>
    have same : Record.Same _ _ := ⟨className, fields⟩
    simp only [Value.asPlainRecord?, same.isInstance_eq]
    split
    · exact .none
    · exact .some same
  | _ => exact .none

/-- Descending into equal values finds equal values or nothing. -/
theorem descend? (h : v.Same w) (path : List String) :
    Option.Rel Value.Same (v.descend? path) (w.descend? path) := by
  induction path generalizing v w with
  | nil => exact .some h
  | cons segment rest ih =>
    cases h.corresponds with
    | @object record other className fields =>
      have held : Option.Rel Value.Same (record.get? segment) (other.get? segment) :=
        fields segment
      simp only [Value.descend?]
      -- The field is there on both sides or on neither.
      generalize record.get? segment = found at held
      generalize other.get? segment = found' at held
      cases held with
      | none => exact .none
      | some same => exact ih same
    | _ => exact .none

end Value.Same

/-- Under a dotted path the same records have the same value or none. -/
theorem Record.Same.lookup? {record other : Record} (h : record.Same other) (path : String) :
    Option.Rel Value.Same (record.lookup? path) (other.lookup? path) := by
  unfold Record.lookup?
  cases Path.cut path.toList with
  | nil => exact .none
  | cons first rest =>
    have held : Option.Rel Value.Same (record.get? (String.ofList first))
      (other.get? (String.ofList first)) := h.fields _
    dsimp only
    generalize record.get? (String.ofList first) = found at held
    generalize other.get? (String.ofList first) = found' at held
    cases held with
    | none => exact .none
    | some same =>
      have inner := same.descend? (rest.map String.ofList)
      dsimp only
      generalize Value.descend? _ (rest.map String.ofList) = reached at inner
      generalize Value.descend? _ (rest.map String.ofList) = reached' at inner
      cases inner with
      | none => exact .none
      | some same =>
        -- What is found counts only if it is defined, and equal values are defined together.
        cases same.corresponds with
        | undefined => exact .none
        | _ => exact .some same

end PropShape
