import PropShape.Diff
import PropShape.Proofs.OrderedMap
import Mathlib.Data.List.Forall2
import Mathlib.Data.List.Perm.Subperm
import Mathlib.Logic.Relation

/-!
# `PropShape.Proofs.Agreement`: agreement up to a relation, whatever the order

A relation between things is carried over to what holds such things: to
optional things and to lists item by item, to lists in which the counterparts
may stand anywhere (`Counterparts`), and to maps.

Two maps agree up to a relation if every key has related values in both, or
no value in either (`OrderedMap.Agree`). The order of insertion plays no part.
Maps are compared in two other ways in this library, and both mean this.

* `agree_iff`: records and schemas are compared from one side, by the size
  and by looking up every key of the first map in the second one. What is
  left out that way is made up for by the distinctness of keys: of two
  equally large sets of keys, neither is a proper part of the other.
* `Difference.messages_eq_nil_iff`: the difference of two maps that is
  reported in words is empty.
-/

set_option autoImplicit false

namespace PropShape

universe u v w

/-! ## Optional things -/

/-- A relation between optional things may be replaced by one that holds between the things
compared. -/
theorem rel_imp_mem {α : Type u} {β : Type v} {R S : α → β → Prop} {a : Option α} {b : Option β}
    (h : Option.Rel R a b) (imp : ∀ x y, a = some x → b = some y → R x y → S x y) :
    Option.Rel S a b := by
  cases h with
  | none => exact .none
  | some related => exact .some (imp _ _ rfl rfl related)

/-- An option is related to itself if what it holds is. -/
theorem rel_refl {α : Type u} {R : α → α → Prop} {a : Option α} (h : ∀ x, a = some x → R x x) :
    Option.Rel R a a := by
  cases a with
  | none => exact .none
  | some x => exact .some (h x rfl)

/-- A relation between optional things may be turned around. -/
theorem rel_flip {α : Type u} {β : Type v} {R : α → β → Prop} {a : Option α} {b : Option β}
    (h : Option.Rel R a b) : Option.Rel (fun y x => R x y) b a := by
  cases h with
  | none => exact .none
  | some related => exact .some related

/-- Related options agree on two tests that agree on related members. -/
theorem any_eq_of_rel {α : Type u} {β : Type v} {R : α → β → Prop} {a : Option α} {b : Option β}
    {p : α → Bool} {q : β → Bool} (h : Option.Rel R a b) (same : ∀ x y, R x y → p x = q y) :
    a.any p = b.any q := by
  cases h with
  | none => rfl
  | some related => exact same _ _ related

/-! ## Lists -/

section

variable {α : Type u} {β : Type v} {R S : α → β → Prop} {items : List α} {others : List β}

/-- A relation between lists may be replaced by one that holds between the items compared. -/
theorem forall₂_imp_mem (h : List.Forall₂ R items others)
    (imp : ∀ a b, a ∈ items → b ∈ others → R a b → S a b) : List.Forall₂ S items others := by
  induction h with
  | nil => exact .nil
  | cons first rest ih =>
    refine .cons (imp _ _ List.mem_cons_self List.mem_cons_self first) (ih fun a b ha hb => ?_)
    exact imp a b (List.mem_cons_of_mem _ ha) (List.mem_cons_of_mem _ hb)

/-- Lists that correspond item by item are empty together. -/
theorem isEmpty_eq_of_forall₂ (h : List.Forall₂ R items others) :
    items.isEmpty = others.isEmpty := by
  cases h <;> rfl

/-- Lists that correspond item by item still do so when their items are numbered. -/
theorem forall₂_zipIdx (h : List.Forall₂ R items others) (index : Nat) :
    List.Forall₂ (fun p q => p.2 = q.2 ∧ R p.1 q.1) (items.zipIdx index) (others.zipIdx index) := by
  induction h generalizing index with
  | nil => exact .nil
  | cons first rest ih => exact .cons ⟨rfl, first⟩ (ih (index + 1))

/-- Two correspondences of lists compose to one. -/
theorem forall₂_comp {γ : Type w} {T : β → γ → Prop} {third : List γ}
    (h : List.Forall₂ R items others) (h' : List.Forall₂ T others third) :
    List.Forall₂ (Relation.Comp R T) items third := by
  induction h generalizing third with
  | nil =>
    cases h'
    exact .nil
  | cons first rest ih =>
    cases h' with
    | cons second others => exact .cons ⟨_, first, second⟩ (ih others)

end

/-- Each item of either list has a counterpart in the other list, wherever it stands. -/
structure Counterparts {α : Type u} {β : Type v} (R : α → β → Prop) (items : List α)
    (others : List β) : Prop where
  forth : ∀ item ∈ items, ∃ other ∈ others, R item other
  back : ∀ other ∈ others, ∃ item ∈ items, R item other

namespace Counterparts

variable {α : Type u} {β : Type v} {R : α → β → Prop} {items items' : List α}
  {others others' : List β}

/-- Counterparts of two lists each are counterparts of the lists one after the other. -/
theorem append (h : Counterparts R items others) (h' : Counterparts R items' others') :
    Counterparts R (items ++ items') (others ++ others') where
  forth item mem := by
    rcases List.mem_append.mp mem with mem | mem
    · obtain ⟨other, hother, related⟩ := h.forth item mem
      exact ⟨other, List.mem_append_left _ hother, related⟩
    · obtain ⟨other, hother, related⟩ := h'.forth item mem
      exact ⟨other, List.mem_append_right _ hother, related⟩
  back other mem := by
    rcases List.mem_append.mp mem with mem | mem
    · obtain ⟨item, hitem, related⟩ := h.back other mem
      exact ⟨item, List.mem_append_left _ hitem, related⟩
    · obtain ⟨item, hitem, related⟩ := h'.back other mem
      exact ⟨item, List.mem_append_right _ hitem, related⟩

/-- The items of a list are their own counterparts in any other order. -/
theorem of_perm {others : List α} (h : items.Perm others) : Counterparts Eq items others where
  forth item mem := ⟨item, h.mem_iff.mp mem, rfl⟩
  back other mem := ⟨other, h.mem_iff.mpr mem, rfl⟩

/-- Lists that correspond item by item are counterparts of each other. -/
theorem of_forall₂ (h : List.Forall₂ R items others) : Counterparts R items others := by
  induction h with
  | nil => exact ⟨by simp, by simp⟩
  | cons first rest ih =>
    have single : Counterparts R [_] [_] := ⟨by simpa using first, by simpa using first⟩
    exact single.append ih

/-- A relation may be replaced by one that holds between the items that are compared. -/
theorem imp {S : α → β → Prop} (h : Counterparts R items others)
    (imp : ∀ a b, a ∈ items → b ∈ others → R a b → S a b) : Counterparts S items others where
  forth item mem := by
    obtain ⟨other, hother, related⟩ := h.forth item mem
    exact ⟨other, hother, imp item other mem hother related⟩
  back other mem := by
    obtain ⟨item, hitem, related⟩ := h.back other mem
    exact ⟨item, hitem, imp item other hitem mem related⟩

/-- Counterparts stay counterparts when both lists are mapped. -/
theorem map {γ δ : Type} {S : γ → δ → Prop} {f : α → γ} {g : β → δ}
    (h : Counterparts R items others) (imp : ∀ a b, R a b → S (f a) (g b)) :
    Counterparts S (items.map f) (others.map g) where
  forth := by
    refine List.forall_mem_map.mpr fun item mem => ?_
    obtain ⟨other, hother, related⟩ := h.forth item mem
    exact ⟨g other, List.mem_map_of_mem hother, imp item other related⟩
  back := by
    refine List.forall_mem_map.mpr fun other mem => ?_
    obtain ⟨item, hitem, related⟩ := h.back other mem
    exact ⟨f item, List.mem_map_of_mem hitem, imp item other related⟩

/-- What counterparts have in common holds of all items of the one list exactly if it holds of
all items of the other. -/
theorem forall_iff {P : α → Prop} {Q : β → Prop} (h : Counterparts R items others)
    (same : ∀ a b, R a b → (P a ↔ Q b)) :
    (∀ item ∈ items, P item) ↔ ∀ other ∈ others, Q other := by
  constructor
  · intro hitems other mem
    obtain ⟨item, hitem, related⟩ := h.back other mem
    exact (same item other related).mp (hitems item hitem)
  · intro hothers item mem
    obtain ⟨other, hother, related⟩ := h.forth item mem
    exact (same item other related).mpr (hothers other hother)

/-- A property that counterparts share holds somewhere in both lists or in neither. -/
theorem exists_iff {P : α → Prop} {Q : β → Prop} (h : Counterparts R items others)
    (same : ∀ a b, R a b → (P a ↔ Q b)) :
    (∃ item ∈ items, P item) ↔ ∃ other ∈ others, Q other := by
  constructor
  · rintro ⟨item, mem, hitem⟩
    obtain ⟨other, hother, related⟩ := h.forth item mem
    exact ⟨other, hother, (same item other related).mp hitem⟩
  · rintro ⟨other, mem, hother⟩
    obtain ⟨item, hitem, related⟩ := h.back other mem
    exact ⟨item, hitem, (same item other related).mpr hother⟩

end Counterparts

/-! ## Maps -/

namespace OrderedMap

variable {κ : Type} {α : Type u} {β : Type v} {γ : Type w} [DecidableEq κ]
  {R : α → β → Prop} {map : OrderedMap κ α} {other : OrderedMap κ β}

/-- Both maps have related values under a key, or neither has one. -/
def Agree (R : α → β → Prop) (map : OrderedMap κ α) (other : OrderedMap κ β) : Prop :=
  ∀ key, Option.Rel R (map.get? key) (other.get? key)

/-- Maps that agree on a relation agree on a weaker one; it has to be weaker on what they hold
under a common key only. -/
theorem Agree.imp {S : α → β → Prop} (h : map.Agree R other)
    (imp : ∀ key a b, map.get? key = some a → other.get? key = some b → R a b → S a b) :
    map.Agree S other :=
  fun key => rel_imp_mem (h key) (imp key)

/-- Agreement may be read from the other side. -/
theorem Agree.flip (h : map.Agree R other) : other.Agree (fun b a => R a b) map := by
  intro key
  have related := h key
  generalize map.get? key = held at related
  generalize other.get? key = found at related
  cases related with
  | none => exact .none
  | some hab => exact .some hab

/-- Agreement with a map that agrees with a third one is agreement with the third. -/
theorem Agree.comp {S : β → γ → Prop} {third : OrderedMap κ γ} (h : map.Agree R other)
    (h' : other.Agree S third) : map.Agree (Relation.Comp R S) third := by
  intro key
  have first := h key
  have second := h' key
  -- What the three maps hold is compared key by key, as options.
  generalize map.get? key = left at first
  generalize other.get? key = middle at first second
  generalize third.get? key = right at second
  cases first with
  | none =>
    cases second
    exact .none
  | some hab =>
    cases second with
    | some hbc => exact .some ⟨_, hab, hbc⟩

/-- What is found in the one map has its counterpart in the other. -/
theorem Agree.exists_right (h : map.Agree R other) {key : κ} {a : α}
    (found : map.get? key = some a) : ∃ b, other.get? key = some b ∧ R a b := by
  have related := h key
  rw [found] at related
  generalize other.get? key = held at related
  cases related with
  | some hab => exact ⟨_, rfl, hab⟩

/-- What the other map holds under a key has its counterpart under the same key. -/
theorem Agree.exists_left (h : map.Agree R other) {key : κ} {b : β}
    (found : other.get? key = some b) : ∃ a, map.get? key = some a ∧ R a b :=
  h.flip.exists_right found

/-- A map agrees with itself if each value it holds is related to itself. -/
theorem agree_refl {R : α → α → Prop} {map : OrderedMap κ α}
    (h : ∀ key a, map.get? key = some a → R a a) : map.Agree R map :=
  fun key => rel_refl (h key)

/-- Maps that agree have the same keys, in some order. -/
theorem Agree.keys_perm (h : map.Agree R other) : map.keys.Perm other.keys := by
  refine (List.perm_ext_iff_of_nodup map.nodup_keys other.nodup_keys).mpr fun key => ?_
  rw [mem_keys_iff, mem_keys_iff]
  constructor
  · rintro ⟨a, found⟩
    obtain ⟨b, hb, -⟩ := h.exists_right found
    exact ⟨b, hb⟩
  · rintro ⟨b, found⟩
    obtain ⟨a, ha, -⟩ := h.exists_left found
    exact ⟨a, ha⟩

/-- Maps agree if they have the same keys and related values under them. -/
theorem agree_iff_keys :
    map.Agree R other ↔
      (∀ key, key ∈ map.keys ↔ key ∈ other.keys) ∧
        ∀ key a b, map.get? key = some a → other.get? key = some b → R a b := by
  constructor
  · intro h
    refine ⟨fun key => h.keys_perm.mem_iff, fun key a b ha hb => ?_⟩
    obtain ⟨b', hb', related⟩ := h.exists_right ha
    cases hb.symm.trans hb'
    exact related
  · rintro ⟨keys, related⟩ key
    -- The same keys mean that both maps hold something or neither does.
    have both : (∃ a, map.get? key = some a) ↔ ∃ b, other.get? key = some b := by
      rw [← mem_keys_iff, ← mem_keys_iff, keys]
    cases ha : map.get? key with
    | some a =>
      obtain ⟨b, hb⟩ := both.mp ⟨a, ha⟩
      rw [hb]
      exact .some (related key a b ha hb)
    | none =>
      cases hb : other.get? key with
      | none => exact .none
      | some b =>
        obtain ⟨a, ha'⟩ := both.mpr ⟨b, hb⟩
        cases ha.symm.trans ha'

/-- The entries of maps that agree are counterparts. -/
theorem Agree.counterparts (h : map.Agree R other) :
    Counterparts (fun pair held => pair.1 = held.1 ∧ R pair.2 held.2) map.toList other.toList where
  forth := by
    rintro ⟨key, a⟩ mem
    obtain ⟨b, found, related⟩ := h.exists_right ((get?_eq_some_iff _ _ _).mpr mem)
    exact ⟨(key, b), (get?_eq_some_iff _ _ _).mp found, rfl, related⟩
  back := by
    rintro ⟨key, b⟩ mem
    obtain ⟨a, found, related⟩ := h.exists_left ((get?_eq_some_iff _ _ _).mpr mem)
    exact ⟨(key, a), (get?_eq_some_iff _ _ _).mp found, rfl, related⟩

/-- It is enough to compare the sizes and to look up what the first map holds. -/
theorem agree_iff :
    map.Agree R other ↔
      map.size = other.size ∧
        ∀ pair ∈ map.toList, ∃ held, other.get? pair.1 = some held ∧ R pair.2 held := by
  constructor
  · intro h
    refine ⟨h.keys_perm.length_eq, fun pair mem => ?_⟩
    exact h.exists_right ((get?_eq_some_iff _ _ _).mpr mem)
  · rintro ⟨size, within⟩ key
    have found : ∀ {key a}, map.get? key = some a → ∃ b, other.get? key = some b ∧ R a b :=
      fun {key a} h => within (key, a) ((get?_eq_some_iff _ _ _).mp h)
    cases hmap : map.get? key with
    | some a =>
      obtain ⟨b, hb, hab⟩ := found hmap
      rw [hb]
      exact .some hab
    | none =>
      -- The keys of the first map are among those of the second one, and equally many.
      have subset : map.keys ⊆ other.keys := by
        intro key mem
        obtain ⟨a, ha⟩ := mem_keys_iff.mp mem
        obtain ⟨b, hb, -⟩ := found ha
        exact mem_keys_iff.mpr ⟨b, hb⟩
      have perm : map.keys.Perm other.keys :=
        (List.subperm_of_subset map.nodup_keys subset).perm_of_length_le (Nat.le_of_eq size.symm)
      cases hother : other.get? key with
      | none => exact .none
      | some b =>
        have mem : key ∈ map.keys := perm.mem_iff.mpr (mem_keys_iff.mpr ⟨b, hother⟩)
        obtain ⟨a, ha⟩ := mem_keys_iff.mp mem
        rw [hmap] at ha
        cases ha

/-- A map agrees with one that lists its keys in another order, with related values. -/
theorem agree_ofList_map {names : List κ} {f : κ → β}
    (arranged : map.keys.Perm names) (h : ∀ name a, map.get? name = some a → R a (f name)) :
    map.Agree R (ofList (names.map fun name => (name, f name))) := by
  have distinct : names.Nodup := arranged.nodup_iff.mp map.nodup_keys
  refine agree_iff.mpr ⟨?_, fun pair mem => ?_⟩
  · exact arranged.length_eq.trans (congrArg List.length (keys_ofList_map distinct)).symm
  · have found := (get?_eq_some_iff _ _ _).mpr mem
    have named : pair.1 ∈ names := arranged.mem_iff.mp (mem_keys_iff.mpr ⟨_, found⟩)
    exact ⟨f pair.1, (get?_ofList_map_iff distinct).mpr ⟨named, rfl⟩, h _ _ found⟩

end OrderedMap

/-! ## Maps with the same keys in the same order -/

namespace OrderedMap

variable {κ : Type} {α : Type u} {β : Type v}

/-- Both maps have the same keys in the same order, with related values. -/
def InPlace (R : α → β → Prop) (map : OrderedMap κ α) (other : OrderedMap κ β) : Prop :=
  List.Forall₂ (fun pair held => pair.1 = held.1 ∧ R pair.2 held.2) map.toList other.toList

variable {R : α → β → Prop} {map : OrderedMap κ α} {other : OrderedMap κ β}

/-- A correspondence in place may be read from the other side. -/
theorem InPlace.flip (h : map.InPlace R other) : other.InPlace (fun b a => R a b) map :=
  List.Forall₂.flip (h.imp fun _ _ related => ⟨related.1.symm, related.2⟩)

/-- Maps that correspond in place have the same keys in the same order. -/
theorem InPlace.keys_eq (h : map.InPlace R other) : map.keys = other.keys := by
  rw [← keys_toList, ← keys_toList]
  unfold InPlace at h
  generalize map.toList = pairs at h
  generalize other.toList = others at h
  induction h with
  | nil => rfl
  | cons first rest ih => rw [List.map_cons, List.map_cons, first.1, ih]

/-- A map corresponds to itself in place. -/
theorem inPlace_refl {R : α → α → Prop} (refl : ∀ a, R a a) (map : OrderedMap κ α) :
    map.InPlace R map :=
  List.forall₂_same.mpr fun pair _ => ⟨rfl, refl pair.2⟩

variable [DecidableEq κ]

/-- Maps that correspond in place agree. -/
theorem InPlace.agree (h : map.InPlace R other) : map.Agree R other := by
  refine agree_iff.mpr ⟨congrArg List.length h.keys_eq, fun pair mem => ?_⟩
  obtain ⟨⟨key, held⟩, found, rfl, related⟩ := (Counterparts.of_forall₂ h).forth pair mem
  exact ⟨held, (get?_eq_some_iff _ _ _).mpr found, related⟩

/-- A new value under an old key takes the place of the old value. -/
theorem inPlace_insert {R : α → α → Prop} (refl : ∀ a, R a a) {map : OrderedMap κ α} {key : κ}
    {held value : α} (found : map.get? key = some held) (h : R held value) :
    map.InPlace R (map.insert key value) := by
  have mem := (get?_eq_some_iff map key held).mp found
  have nodup : (map.toList.map Prod.fst).Nodup := map.keys_toList ▸ map.nodup_keys
  unfold InPlace
  rw [toList_insert]
  generalize map.toList = pairs at mem nodup
  induction pairs with
  | nil => cases mem
  | cons pair rest ih =>
    obtain ⟨other, old⟩ := pair
    obtain ⟨fresh, nodup⟩ := List.nodup_cons.mp nodup
    by_cases same : other = key
    · subst same
      -- The key does not come again, so the pair is the one that was found.
      have found : held = old := by
        rcases List.mem_cons.mp mem with heq | later
        · exact congrArg Prod.snd heq
        · exact absurd (List.mem_map_of_mem later) fresh
      subst found
      rw [insertPair, if_pos rfl]
      exact .cons ⟨rfl, h⟩ (List.forall₂_same.mpr fun pair _ => ⟨rfl, refl pair.2⟩)
    · have later : (key, held) ∈ rest := by
        rcases List.mem_cons.mp mem with heq | later
        · exact absurd (congrArg Prod.fst heq).symm same
        · exact later
      rw [insertPair, if_neg same]
      exact .cons ⟨rfl, refl old⟩ (ih later nodup)

end OrderedMap

/-! ## Differences -/

namespace Difference

variable {α : Type u} {equal : α → α → Bool} {declared expected : OrderedMap String α}

/-- A heading is written exactly if there are names to list under it. -/
theorem message_eq_nil_iff {heading : String} {names : List String} :
    message heading names = [] ↔ names = [] := by
  cases names <;> simp [message]

/-- No name is missing exactly if the keys of one map are among those of the other. -/
theorem namesWithout_eq_nil_iff {map other : OrderedMap String α} :
    namesWithout map other = [] ↔ map.keys ⊆ other.keys := by
  simp [namesWithout, List.filter_eq_nil_iff, OrderedMap.contains, List.subset_def]

/-- No name is listed as different exactly if the values under common names are equal. -/
theorem differentNames_eq_nil_iff :
    differentNames equal declared expected = [] ↔
      ∀ name found wanted, declared.get? name = some found → expected.get? name = some wanted →
        equal found wanted = true := by
  rw [differentNames, List.map_eq_nil_iff, List.filter_eq_nil_iff]
  constructor
  · intro h name found wanted hfound hwanted
    have same := h (name, wanted) ((OrderedMap.get?_eq_some_iff _ _ _).mp hwanted)
    simpa [hfound] using same
  · rintro h ⟨name, wanted⟩ mem
    have hwanted := (OrderedMap.get?_eq_some_iff _ _ _).mpr mem
    dsimp only
    -- A name that is not declared at all is missing, not different.
    cases hfound : declared.get? name with
    | none => simp
    | some found => simp [h name found wanted hfound hwanted]

/-- There is nothing to say about two maps exactly if they agree. -/
theorem messages_eq_nil_iff :
    (between equal declared expected).messages = [] ↔
      declared.Agree (fun found wanted => equal found wanted = true) expected := by
  simp only [messages, between, List.append_eq_nil_iff, message_eq_nil_iff,
    differentNames_eq_nil_iff, namesWithout_eq_nil_iff]
  constructor
  · rintro ⟨⟨same, missing⟩, unexpected⟩ name
    cases hfound : declared.get? name with
    | some found =>
      -- Nothing is unexpected, so the expected map has the name too.
      have mem : name ∈ expected.keys := unexpected (OrderedMap.mem_keys_iff.mpr ⟨found, hfound⟩)
      obtain ⟨wanted, hwanted⟩ := OrderedMap.mem_keys_iff.mp mem
      rw [hwanted]
      exact .some (same name found wanted hfound hwanted)
    | none =>
      cases hwanted : expected.get? name with
      | none => exact .none
      | some wanted =>
        -- Nothing is missing, so a name that is expected is declared.
        have mem : name ∈ declared.keys := missing (OrderedMap.mem_keys_iff.mpr ⟨wanted, hwanted⟩)
        obtain ⟨found, h⟩ := OrderedMap.mem_keys_iff.mp mem
        rw [hfound] at h
        cases h
  · intro agree
    refine ⟨⟨fun name found wanted hfound hwanted => ?_, agree.keys_perm.symm.subset⟩,
      agree.keys_perm.subset⟩
    obtain ⟨other, hother, same⟩ := agree.exists_right hfound
    rw [hwanted] at hother
    cases hother
    exact same

end Difference

end PropShape
