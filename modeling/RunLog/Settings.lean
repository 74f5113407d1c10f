import RunLog.Loki.Decode
import RunLog.Toml.Document

namespace RunLog

/-- Settings that take precedence over the document. -/
structure Overrides where
  url : Option String := none
  tenant : Option String := none
  pageSize : Option Nat := none
  maxQueries : Option Nat := none

namespace Settings

/-- Values that stand for nothing in a document: tables and arrays without content. -/
def isHollow : Json → Bool
  | .object [] | .array [] => true
  | _ => false

/-- The settings in a document. Without a table for the backend all of them keep their defaults. -/
def parse? (text : String) : Option Loki.Config := do
  match ← Json.record? [⟨"loki", true⟩] (← Toml.parse? text.toList) with
  | [some value] => Loki.Config.ofJson? isHollow value
  | _ => some {}

end Settings

namespace Overrides

def apply (overrides : Overrides) (config : Loki.Config) : Loki.Config :=
  { config with
    url := overrides.url.getD config.url
    tenant := overrides.tenant.or config.tenant
    pageSize := overrides.pageSize.getD config.pageSize
    maxQueries := overrides.maxQueries.getD config.maxQueries }

end Overrides

end RunLog
