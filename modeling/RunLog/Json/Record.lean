import RunLog.Json.Basic

namespace RunLog.Json

/-- A field of a record. -/
structure Slot where
  name : String
  /-- May an array end before this field? -/
  optional : Bool

/-- The value of a field among the fields of an object: absent or given once. A second one, or a key
that is no text, spoils the record. -/
def fieldOnce? (name : String) : List (Key × Json) → Option (Option Json)
  | [] => some none
  | (key, value) :: rest =>
    match key.text, fieldOnce? name rest with
    | some text, some later =>
      if text = name then (if later.isSome then none else some (some value)) else some later
    | _, _ => none

/-- The values of an array's fields, in order. -/
def positional? : List Slot → List Json → Option (List (Option Json))
  | [], [] => some []
  | [], _ :: _ => none
  | slot :: slots, [] => if slot.optional then (positional? slots []).map (none :: ·) else none
  | _ :: slots, item :: items => (positional? slots items).map (some item :: ·)

/-- The values that a record gives for its fields, in the order of the slots: an object with a field for
each name, or an array with the fields in order. Fields of other names are passed over. -/
def record? (slots : List Slot) : Json → Option (List (Option Json))
  | object fields => slots.mapM fun slot => fieldOnce? slot.name fields
  | array items => positional? slots items
  | _ => none

end RunLog.Json
