import PropShape.Proofs.Validation.Acceptance
import PropShape.Proofs.Value.Path

/-!
# `PropShape.Proofs.Validation.Names`: the names that a shape lets through

A shape rejects a record with a property that is not declared. It decides this
by comparing texts: the name has to be a declared one, or one that a dot
follows in a declared one. What is validated is read along the segments of the
declared names instead, and starts at the first segment.

For names without dots the two views agree (`Session.declares_iff_first`). A
name with a dot is never a first segment (`Path.eq_first_or`), but it may be a
declared name. So of the properties that a shape lets through, exactly those
without a dot in their names are read (`Session.shape_reads_undotted_names`),
and `Validator.shape_accepts_unread_name` shows one that is let through without
being looked at.
-/

set_option autoImplicit false

namespace PropShape

/-! ## First segments -/

namespace Path

variable {path name : String}

/-- Characters begin with some that are no dots, and end there or go on with a dot. -/
theorem exists_undotted_start (chars : List Char) :
    ∃ start, '.' ∉ start ∧ (chars = start ∨ ∃ rest, chars = start ++ '.' :: rest) := by
  -- The first dot ends the segment; before it, the rest of the text has one of its own.
  induction chars with
  | nil => exact ⟨[], List.not_mem_nil, .inl rfl⟩
  | cons c others ih =>
    by_cases dot : c = '.'
    · subst dot
      exact ⟨[], List.not_mem_nil, .inr ⟨others, rfl⟩⟩
    · obtain ⟨start, plain, ending⟩ := ih
      refine ⟨c :: start, List.not_mem_cons_of_ne_of_not_mem (Ne.symm dot) plain, ?_⟩
      rcases ending with rfl | ⟨rest, rfl⟩
      · exact .inl rfl
      · exact .inr ⟨rest, rfl⟩

/-- The segment at which reading along a path starts. -/
def first (path : String) : String := (segments path).headD ""

/-- Without a dot the first segment is the whole name. -/
theorem first_of_undotted (h : Undotted name) : first name = name := by
  rw [first, segments_of_undotted h]
  rfl

/-- The first segment ends in front of the first dot. -/
theorem first_append_dot (h : Undotted name) (rest : String) :
    first (name ++ "." ++ rest) = name := by
  rw [first, segments_append, segments_of_undotted h]
  rfl

/-- A path is its first segment, or goes on behind it with a dot. -/
theorem eq_first_or (path : String) :
    Undotted (first path) ∧ (path = first path ∨ ∃ rest, path = first path ++ "." ++ rest) := by
  obtain ⟨start, plain, ending⟩ := exists_undotted_start path.toList
  have undotted : Undotted (.ofList start) := by rwa [Undotted, String.toList_ofList]
  rcases ending with whole | ⟨rest, split⟩
  · obtain rfl : path = .ofList start := by rw [← whole, String.ofList_toList]
    rw [first_of_undotted undotted]
    exact ⟨undotted, .inl rfl⟩
  · obtain rfl : path = .ofList start ++ "." ++ .ofList rest := by
      rw [← String.toList_inj, split]
      simp
    rw [first_append_dot undotted]
    exact ⟨undotted, .inr ⟨_, rfl⟩⟩

end Path

/-! ## Names that are let through -/

namespace Session

/-- For a name without dots, being declared means that a declared path starts with it. -/
theorem declares_iff_first {declared : List String} {name : String} (h : Path.Undotted name) :
    declares declared name = true ↔ ∃ path ∈ declared, Path.first path = name := by
  rw [declares_iff]
  refine exists_congr fun path => and_congr_right fun _ => ?_
  constructor
  · rintro (rfl | ⟨rest, rfl⟩)
    · exact Path.first_of_undotted h
    · exact Path.first_append_dot h rest
  · rintro rfl
    exact (Path.eq_first_or path).2

/-- A shape accepts plain records, and only if all their names are declared. -/
theorem names_of_shape {s : Session} {c : Check}
    (accepted : (s.checkBuiltin .shape c).result = .ok true) :
    ∃ properties fields, c.descriptor.properties? = some properties ∧
      c.value = .object ⟨none, fields⟩ ∧
      ∀ name ∈ fields.keys, declares properties.keys name = true := by
  rw [checkBuiltin_shape] at accepted
  split at accepted
  · next => cases (misconfigured_result ..).symm.trans accepted
  · next properties configured =>
    split at accepted
    · next fields held =>
      -- The properties come first, and the names after them; both must have passed.
      obtain ⟨passed, -, accepted⟩ := Run.bind_eq_ok_iff.mp accepted
      obtain ⟨known, named, accepted⟩ := Run.bind_eq_ok_iff.mp accepted
      obtain ⟨-, rfl⟩ := Bool.and_eq_true_iff.mp (expect_eq_ok accepted).symm
      refine ⟨properties, fields, configured, held, fun name mem => ?_⟩
      rw [checkNames_eq] at named
      have settled := (Run.of_all_map_eq_ok named).2.mp rfl _ (List.mem_map_of_mem mem)
      exact (expect_eq_ok settled).symm
    · have passed : true = false := expect_eq_ok accepted
      cases passed

/-- Which properties a shape reads. In every record that a shape accepts, a property has a name
at which the reading of some declared path starts exactly if there is no dot in the name. -/
theorem shape_reads_undotted_names (s : Session) (c : Check)
    (accepted : (s.checkBuiltin .shape c).result = .ok true) :
    ∃ properties fields, c.descriptor.properties? = some properties ∧
      c.value = .object ⟨none, fields⟩ ∧
      ∀ name ∈ fields.keys,
        (∃ path ∈ properties.keys, Path.first path = name) ↔ Path.Undotted name := by
  obtain ⟨properties, fields, configured, held, declared⟩ := names_of_shape accepted
  refine ⟨properties, fields, configured, held, fun name mem => ⟨?_, fun undotted => ?_⟩⟩
  · rintro ⟨path, -, rfl⟩
    exact (Path.eq_first_or path).1
  · exact (declares_iff_first undotted).mp (declared name mem)

end Session

namespace Validator

/-- A shape with the port of a server, which may be missing. -/
def portShape : Descriptor :=
  { type := .builtin .shape
    properties? := some (.ofList [("server.port", .ofType (.builtin .number))]) }

end Validator

/-- A server without a port: the declared path starts at the server. -/
theorem Session.shape_reads_undotted_names_server :
    let s := Session.start .builtins .memory .log
    let c : Check :=
      ⟨"ctx", "prop", .ofFields [("server", .object .plain)], Validator.portShape, true⟩
    (s.checkBuiltin .shape c).result = .ok true ∧ Path.first "server.port" = "server" := by
  intro s c
  have accepted : (s.checkBuiltin .shape c).result = .ok true := by
    rw [checkBuiltin_eq_follow]
    rfl
  obtain ⟨properties, fields, configured, held, reads⟩ := shape_reads_undotted_names s c accepted
  cases configured
  cases held
  -- The only declared name that starts with the key is the dotted one.
  obtain ⟨path, mem, start⟩ := (reads "server" (by decide)).mpr (by decide)
  cases List.mem_singleton.mp mem
  exact ⟨accepted, start⟩

namespace Validator

/-- The name of the declared path, as the name of a property. It is let through, although no
declared path starts there, and although it does not hold a number. -/
theorem shape_accepts_unread_name :
    let fields : OrderedMap String Value := .ofList [("server.port", .string "eighty")]
    (validate ⟨.builtins, .memory, {}⟩ "ctx" "prop" (.object ⟨none, fields⟩) portShape).result =
        .ok true ∧
      fields.get? "server.port" = some (.string "eighty") ∧
      ∀ properties, portShape.properties? = some properties →
        ¬ ∃ path ∈ properties.keys, Path.first path = "server.port" := by
  intro fields
  refine ⟨?_, rfl, ?_⟩
  · have owned : Registry.builtins.resolve portShape.type =
        .ok (.builtin .shape, .builtin .shape) := Registry.resolve_builtins .shape
    rw [validate_of_defined rfl, Session.check_of_builtin owned, Session.checkBuiltin_eq_follow]
    rfl
  -- A first segment has no dot, and this key has one.
  · rintro properties ⟨⟩ ⟨path, -, start⟩
    exact absurd (start ▸ (Path.eq_first_or path).1) (by decide)

end Validator

end PropShape
