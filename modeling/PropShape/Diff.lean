import PropShape.OrderedMap

/-!
# `PropShape.Diff`: comparing declared properties with expected ones

`Difference.between` compares two maps by name. A name is *different* if both
sides have it with unequal things under it, *missing* if it is only expected,
and *unexpected* if it is only declared. Names are listed in the order of the
expected map, unexpected ones in that of the declared map.

`Difference.messages` says it in words, one message for each kind of
difference that occurs; so two maps agree exactly when there is no message.
-/

set_option autoImplicit false

namespace PropShape

universe u

/-- The names in which two maps differ. -/
structure Difference where
  different : List String
  missing : List String
  unexpected : List String
  deriving DecidableEq, Inhabited

namespace Difference

variable {α : Type u}

/-- The names that both sides have with unequal things under them. -/
def differentNames (equal : α → α → Bool) (declared expected : OrderedMap String α) :
    List String :=
  (expected.toList.filter fun (name, wanted) =>
    match declared.get? name with
    | some found => !equal found wanted
    | none => false).map Prod.fst

/-- The names that only one map has. -/
def namesWithout (map other : OrderedMap String α) : List String :=
  map.keys.filter fun name => !other.contains name

/-- Compares two maps, given an equality for what is under a name. -/
def between (equal : α → α → Bool) (declared expected : OrderedMap String α) : Difference where
  different := differentNames equal declared expected
  missing := namesWithout expected declared
  unexpected := namesWithout declared expected

/-- A message about some names, if there are any. -/
def message (heading : String) (names : List String) : List String :=
  if names.isEmpty then [] else [heading ++ ": " ++ String.intercalate ", " names]

/-- The difference in words. -/
def messages (d : Difference) : List String :=
  message "The following propTypes are different than expected" d.different ++
    message "The following propTypes were not found but are expected" d.missing ++
    message "The following propTypes were found but not expected in the test" d.unexpected

/-- The failure of an assertion that there is no difference. -/
def failure? (d : Difference) : Option String :=
  if d.messages.isEmpty then none else some (String.intercalate "\n" d.messages)

end Difference

end PropShape
