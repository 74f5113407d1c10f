import RunLog.Json.Number
import RunLog.Json.Record
import RunLog.Loki.Config

namespace RunLog.Loki

def fieldOr {α : Type} (default : α) (read : Json → Option α) : Option Json → Option α
  | none => some default
  | some value => read value

def fieldOption {α : Type} (read : Json → Option α) : Option Json → Option (Option α)
  | none | some .null => some none
  | some value => (read value).map some

namespace LogFormat

def ofName? : String → Option LogFormat
  | "loki_v3_otel" => some .v3Otel
  | "loki_v2_json_otel" => some .v2JsonOtel
  | _ => none

/-- The format that a value names, alone or as the one key of an object whose value is empty. -/
def ofJson? (isEmpty : Json → Bool) : Json → Option LogFormat
  | .string (some name) => ofName? name
  | .object [(key, value)] => if isEmpty value then key.text.bind ofName? else none
  | _ => none

end LogFormat

namespace Credentials

/-- Which credentials a tag announces, and the names of their parts. -/
def shape? : String → Option (List String × (List String → Option Credentials))
  | "basic" => some (["username", "password"], fun
    | [username, password] => some (.basic username password)
    | _ => none)
  | "bearer" => some (["token"], fun
    | [token] => some (.bearer token)
    | _ => none)
  | "api_key" => some (["key"], fun
    | [key] => some (.apiKey key)
    | _ => none)
  | _ => none

/-- The credentials of a record: its tag says which they are. In an array the tag comes first. -/
def ofJson? (value : Json) : Option Credentials := do
  let (tag, content) ← match value with
    | .object fields => do
      let tag ← Json.fieldOnce? "type" fields
      let others := fields.filter fun e => e.1.text ≠ some "type"
      some (← tag, .object others)
    | .array (tag :: items) => some (tag, .array items)
    | _ => none
  let (names, build) ← shape? (← tag.text?)
  let parts ← Json.record? (names.map fun name => ⟨name, false⟩) content
  build (← parts.mapM fun part => part.bind Json.text?)

end Credentials

namespace GrafanaConfig

def ofJson? (isEmpty : Json → Bool) (value : Json) : Option GrafanaConfig := do
  let slot (name : String) : Json.Slot := ⟨name, true⟩
  match ← Json.record? [slot "base_url", slot "org_id", slot "loki_datasource", slot "log_format",
    slot "backend_name"] value with
  | [baseUrl, orgId, datasource, logFormat, backendName] =>
    let base : GrafanaConfig := {}
    return {
      baseUrl := ← fieldOr base.baseUrl Json.text? baseUrl
      orgId := ← fieldOr base.orgId Json.text? orgId
      datasource := ← fieldOr base.datasource Json.text? datasource
      logFormat := ← fieldOr base.logFormat (LogFormat.ofJson? isEmpty) logFormat
      backendName := ← fieldOr base.backendName Json.text? backendName }
  | _ => none

end GrafanaConfig

namespace Config

/-- The names of the settings, in order. -/
def fieldNames : List String :=
  ["url", "credentials", "tenant_id", "service_name", "service_namespace", "page_size",
    "max_queries", "max_lines", "timeout_secs", "disable_ssl_verification", "truncation_marker",
    "tail_size_kb", "grafana"]

/-- The settings of a backend. A field left out keeps its default, and fields of other names are passed
over; `isEmpty` tells which values stand for nothing in the document. -/
def ofJson? (isEmpty : Json → Bool) (value : Json) : Option Config := do
  match ← Json.record? (fieldNames.map fun name => ⟨name, true⟩) value with
  | [url, credentials, tenant, serviceName, serviceNamespace, pageSize, maxQueries, maxLines,
      timeout, invalidCertificates, marker, tailKb, grafana] =>
    let base : Config := {}
    let word := Json.natural? Numeral.greatestWord
    return {
      url := ← fieldOr base.url Json.text? url
      credentials := ← fieldOption Credentials.ofJson? credentials
      tenant := ← fieldOption Json.text? tenant
      serviceName := ← fieldOr base.serviceName Json.text? serviceName
      serviceNamespace := ← fieldOption Json.text? serviceNamespace
      pageSize := ← fieldOr base.pageSize word pageSize
      maxQueries := ← fieldOr base.maxQueries (Json.natural? 4294967295) maxQueries
      maxLines := ← fieldOr base.maxLines word maxLines
      timeoutSeconds := ← fieldOr base.timeoutSeconds word timeout
      acceptInvalidCertificates :=
        ← fieldOr base.acceptInvalidCertificates Json.bool? invalidCertificates
      truncationMarker := ← fieldOr base.truncationMarker Json.bool? marker
      tailKb := .ofNat (← fieldOr base.tailKb.toNat word tailKb)
      grafana := ← fieldOption (GrafanaConfig.ofJson? isEmpty) grafana }
  | _ => none

end Config

end RunLog.Loki
