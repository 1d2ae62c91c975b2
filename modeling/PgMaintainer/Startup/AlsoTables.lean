import PgMaintainer.Text
import PgMaintainer.Types

/-!
# The list of `--also-tables`

`ExplicitTable::parse_list` of `types.rs`.
-/

namespace PgMaintainer

namespace ExplicitTable

/-- The table of a trimmed entry that is not empty. -/
def ofEntry (entry : Text) : Except String ExplicitTable :=
  match entry.splitOnce '.' with
  | none =>
    .error (s!"--also-tables entry '{String.ofList entry}' must be schema-qualified, e.g. " ++
      s!"public.{String.ofList entry}")
  | some (schema, table) =>
    if schema = [] ∨ table = [] then
      .error s!"--also-tables entry '{String.ofList entry}' is not a valid schema.table name"
    else if '.' ∈ table then
      .error (s!"--also-tables entry '{String.ofList entry}' has more than one '.' — expected " ++
        "schema.table")
    else
      .ok ⟨String.ofList schema, String.ofList table⟩

/-- The loop of `parse_list`, with the tables it has found. -/
def parseFrom (out : List ExplicitTable) : List String → Except String (List ExplicitTable)
  | [] => .ok out
  | raw :: entries =>
    let entry := Text.trim raw.toList
    if entry = [] then
      parseFrom out entries
    else do
      let candidate ← ofEntry entry
      parseFrom (if candidate ∈ out then out else out ++ [candidate]) entries

/-- Parse `schema.table` entries, in the order given and without duplicates. -/
def parseList (entries : List String) : Except String (List ExplicitTable) := parseFrom [] entries

end ExplicitTable

end PgMaintainer
