namespace RunLog.Loki

/-- Why settings cannot be used. -/
inductive ConfigError where
  | invalidUrl (place url reason : String)
  | missingField (name : String)
  | invalidCredentials (reason : String)
  | invalidLimit (reason : String)
  | httpClient (reason : String)
deriving DecidableEq, Repr

namespace ConfigError

def message : ConfigError → String
  | invalidUrl place url reason => "invalid " ++ place ++ " url '" ++ url ++ "': " ++ reason
  | missingField name => "missing required setting: " ++ name
  | invalidCredentials reason => "invalid credentials: " ++ reason
  | invalidLimit reason => "invalid limit: " ++ reason
  | httpClient reason => "failed to build http client: " ++ reason

end ConfigError

end RunLog.Loki
