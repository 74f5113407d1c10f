import RunLog.Json.Basic

/-!
Tables under construction. A header opens a table, which no other header opens again; names with
dots between them add to the tables that such names made, and to no other.
-/

namespace RunLog.Toml

/-- How a table came to be. -/
inductive Origin where
  | header
  | implied
  | dotted
deriving DecidableEq

/-- What stands under a name: a value that is complete, a table, or several tables, of which the
last one is still open. -/
inductive Node where
  | leaf (value : Json)
  | table (origin : Origin) (entries : List (String × Node))
  | tables (earlier : List (List (String × Node))) (last : List (String × Node))

/-- The entries of a table, in the order in which they came. -/
abbrev Entries := List (String × Node)

namespace Node

mutual

def toJson : Node → Json
  | leaf value => value
  | table _ entries => .fields (entriesToJson entries)
  | tables earlier last => .array (listToJson earlier ++ [.fields (entriesToJson last)])

def entriesToJson : List (String × Node) → List (String × Json)
  | [] => []
  | (name, node) :: rest => (name, toJson node) :: entriesToJson rest

/-- Tables as objects, the latest of which comes first. -/
def listToJson : List (List (String × Node)) → List Json
  | [] => []
  | entries :: rest => listToJson rest ++ [.fields (entriesToJson entries)]

end

end Node

namespace Entries

def toJson (entries : Entries) : Json := .fields (Node.entriesToJson entries)

/-- Changes the node under a name, or adds one. -/
def alter (name : String) (change : Option Node → Option Node) : Entries → Option Entries
  | [] => (change none).map fun node => [(name, node)]
  | (n, node) :: rest =>
    if n = name then (change (some node)).map fun node => (n, node) :: rest
    else (alter name change rest).map ((n, node) :: ·)

def insertNew (name : String) (value : Json) (entries : Entries) : Option Entries :=
  entries.alter name fun
    | none => some (.leaf value)
    | some _ => none

/-- Changes the table at the end of a path. Tables on the way are made where there are none; names
with dots between them do not lead through a table that has a header. -/
def descend (dotted : Bool) (change : Origin → Entries → Option Entries) :
    List String → Origin → Entries → Option Entries
  | [], origin, entries => change origin entries
  | name :: rest, _, entries => entries.alter name fun
    | none =>
      let origin : Origin := if dotted then .dotted else .implied
      (descend dotted change rest origin []).map (.table origin)
    | some (.leaf _) => none
    | some (.table origin inner) =>
      if dotted && origin = .header then none
      else (descend dotted change rest origin inner).map (.table origin)
    | some (.tables earlier last) =>
      (descend dotted change rest .header last).map (.tables earlier)

def assign (entries : Entries) (target : List String × String) (value : Json) : Option Entries :=
  match target with
  | ([], name) => entries.insertNew name value
  | (way, name) =>
    entries.descend true (fun origin inner =>
      if origin = .dotted then inner.insertNew name value else none) way .header

def openTable (entries : Entries) (target : List String × String) : Option Entries :=
  entries.descend false (fun _ inner => inner.alter target.2 fun
    | none => some (.table .header [])
    | some (.table .implied known) => some (.table .header known)
    | some _ => none) target.1 .header

/-- Opens one more table under the name that a header in double brackets gives. -/
def openNext (entries : Entries) (target : List String × String) : Option Entries :=
  entries.descend false (fun _ inner => inner.alter target.2 fun
    | none => some (.tables [] [])
    | some (.tables earlier last) => some (.tables (last :: earlier) [])
    | some _ => none) target.1 .header

/-- Gives a value to an entry of the table under the last header. -/
def assignUnder (entries : Entries) (header : List String) (target : List String × String)
    (value : Json) : Option Entries :=
  entries.descend false (fun _ inner => inner.assign target value) header .header

end Entries

end RunLog.Toml
