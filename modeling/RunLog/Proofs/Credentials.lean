import RunLog.Proofs.Outages

namespace RunLog

/-- A control character of ASCII, a tab excepted. -/
def Text.isControl (c : Char) : Bool := (c.toNat < 32 && c.toNat ≠ 9) || c.toNat = 127

open Loki.AuthHeaders (isHeaderByte)

section Bytes

theorem isHeaderByte_iff (b : UInt8) :
    isHeaderByte b = true ↔ (32 ≤ b.toNat ∧ b.toNat ≠ 127) ∨ b.toNat = 9 := by
  have hleast : 32 ≤ b ↔ 32 ≤ b.toNat := UInt8.le_iff_toNat_le
  have hdelete : b = 127 ↔ b.toNat = 127 := UInt8.toNat_inj.symm
  have htab : b = 9 ↔ b.toNat = 9 := UInt8.toNat_inj.symm
  simp only [isHeaderByte, Bool.or_eq_true, Bool.and_eq_true, decide_eq_true_eq, ne_eq, hleast,
    hdelete, htab]

theorem isHeaderByte_of_ge {b : UInt8} (h : 128 ≤ b.toNat) : isHeaderByte b = true := by
  rw [isHeaderByte_iff]
  omega

/-- Beyond ASCII, no byte of a character is one of ASCII. -/
theorem isHeaderByte_utf8EncodeChar {c : Char} (h : 127 < c.toNat) :
    ∀ b ∈ String.utf8EncodeChar c, isHeaderByte b = true := by
  have hbyte (n : Nat) (hlow : 128 ≤ n) (hhigh : n < 256) : isHeaderByte (UInt8.ofNat n) = true := by
    apply isHeaderByte_of_ge
    rw [Text.toNat_byte hhigh]
    exact hlow
  have hlast := hbyte (c.toNat % 64 + 128) (by omega) (by omega)
  have hsecond := hbyte (c.toNat / 64 % 64 + 128) (by omega) (by omega)
  have hthird := hbyte (c.toNat / 4096 % 64 + 128) (by omega) (by omega)
  -- One case for each number of bytes that a character can have.
  change ∀ b ∈ (if c.toNat ≤ 127 then _ else if c.toNat ≤ 2047 then _
    else if c.toNat ≤ 65535 then _ else _), _
  rw [if_neg (Nat.not_le.mpr h)]
  split
  · have hlead := hbyte (c.toNat / 64 % 32 + 192) (by omega) (by omega)
    simp only [List.forall_mem_cons]
    exact ⟨hlead, hlast, nofun⟩
  · split
    · have hlead := hbyte (c.toNat / 4096 % 16 + 224) (by omega) (by omega)
      simp only [List.forall_mem_cons]
      exact ⟨hlead, hsecond, hlast, nofun⟩
    · have hlead := hbyte (c.toNat / 262144 % 8 + 240) (by omega) (by omega)
      simp only [List.forall_mem_cons]
      exact ⟨hlead, hthird, hsecond, hlast, nofun⟩

/-- The bytes of a character may stand in a header unless it is a control character. -/
theorem all_utf8EncodeChar_iff (c : Char) :
    (∀ b ∈ String.utf8EncodeChar c, isHeaderByte b = true) ↔ Text.isControl c = false := by
  rcases Nat.lt_or_ge 127 c.toNat with hbeyond | hascii
  · refine iff_of_true (isHeaderByte_utf8EncodeChar hbeyond) ?_
    have hsmall : ¬ c.toNat < 32 := by omega
    have hdelete : c.toNat ≠ 127 := by omega
    simp [Text.isControl, hsmall, hdelete]
  · have hone : String.utf8EncodeChar c = [UInt8.ofNat c.toNat] := if_pos hascii
    have hnat : (UInt8.ofNat c.toNat).toNat = c.toNat := Text.toNat_byte (by omega)
    rw [hone, List.forall_mem_singleton, isHeaderByte_iff, hnat, Text.isControl]
    simp only [Bool.or_eq_false_iff, Bool.and_eq_false_iff, decide_eq_false_iff_not]
    omega

theorem all_encode_iff (text : String) :
    (∀ b ∈ Text.encode text, isHeaderByte b = true) ↔ ∀ c ∈ text.toList, Text.isControl c = false := by
  rw [Text.encode_eq]
  constructor
  · intro h c hc
    apply (all_utf8EncodeChar_iff c).mp
    intro b hb
    exact h b (List.mem_flatMap.mpr ⟨c, hc, hb⟩)
  · intro h b hb
    obtain ⟨c, hc, hb⟩ := List.mem_flatMap.mp hb
    exact (all_utf8EncodeChar_iff c).mpr (h c hc) b hb

end Bytes

section Base64

theorem isControl_char {n : Nat} (h : n < 64) : Text.isControl (Base64.char n) = false := by
  have hall : ∀ n < 64, Text.isControl (Base64.char n) = false := by decide
  exact hall n h

/-- Text in base 64 holds no control characters, whatever the bytes are. -/
theorem isControl_base64 (bytes : List UInt8) :
    ∀ c ∈ Base64.encode bytes, Text.isControl c = false := by
  -- Each character stands for six bits, and the filling is an equals sign.
  fun_induction Base64.encode bytes with
  | case1 => exact nofun
  | case2 a =>
    have ha := a.toNat_lt
    simp only [List.forall_mem_cons]
    exact ⟨isControl_char (by omega), isControl_char (by omega), by decide, by decide, nofun⟩
  | case3 a b =>
    have ha := a.toNat_lt
    have hb := b.toNat_lt
    simp only [List.forall_mem_cons]
    exact ⟨isControl_char (by omega), isControl_char (by omega), isControl_char (by omega), by decide,
      nofun⟩
  | case4 a b c rest ih =>
    have ha := a.toNat_lt
    have hb := b.toNat_lt
    have hc := c.toNat_lt
    simp only [List.forall_mem_cons]
    exact ⟨isControl_char (by omega), isControl_char (by omega), isControl_char (by omega),
      isControl_char (by omega), ih⟩

end Base64

namespace Loki

namespace Credentials

/-- What goes into the header as it is, and not in base 64. -/
def asIs : Credentials → List Char
  | basic _ _ => []
  | bearer token => token.toList
  | apiKey key => key.toList

/-- A header value of a fixed word and a text that follows it. -/
theorem all_encode_append_iff (word : String)
    (hword : word.toList.all (Text.isControl · == false)) (text : String) :
    (∀ b ∈ Text.encode (word ++ text), isHeaderByte b = true) ↔
      ∀ c ∈ text.toList, Text.isControl c = false := by
  rw [all_encode_iff, String.toList_append]
  constructor
  · intro h c hc
    exact h c (List.mem_append_right _ hc)
  · intro h c hc
    rcases List.mem_append.mp hc with hleft | hright
    · exact eq_of_beq (List.all_eq_true.mp hword c hleft)
    · exact h c hright

theorem all_basicAuthorization (username : String) (password : Option String) :
    ∀ b ∈ HttpRequest.basicAuthorization username password, isHeaderByte b = true := by
  apply (all_encode_append_iff "Basic " (by decide) _).mpr
  rw [String.toList_ofList]
  exact isControl_base64 _

theorem all_authorization_iff (credentials : Credentials) :
    (∀ b ∈ credentials.authorization, isHeaderByte b = true) ↔
      ∀ c ∈ credentials.asIs, Text.isControl c = false := by
  cases credentials with
  | basic username password =>
    exact iff_of_true (all_basicAuthorization username (some password)) nofun
  | bearer token => exact all_encode_append_iff "Bearer " (by decide) token
  | apiKey key => exact all_encode_append_iff "ApiKey " (by decide) key

end Credentials

namespace AuthHeaders

/-- A value that need not be there, if it can be sent when it is. -/
def optional? : Option HeaderValue → Option (Option HeaderValue)
  | some value => (checked? value).map some
  | none => some none

theorem optional?_eq_some_iff {value sent : Option HeaderValue} :
    optional? value = some sent ↔ sent = value ∧ ∀ v ∈ value, ∀ b ∈ v, isHeaderByte b = true := by
  cases value with
  | none =>
    rw [optional?, Option.some_inj, eq_comm]
    exact (and_iff_left nofun).symm
  | some value =>
    simp only [optional?, checked?, List.all_eq_true]
    split
    · next hclean =>
      have hall : ∀ v ∈ some value, ∀ b ∈ v, isHeaderByte b = true := by
        intro v hv
        rwa [← Option.some.inj hv]
      rw [Option.map_some, Option.some_inj, eq_comm]
      exact (and_iff_left hall).symm
    · next hbad => exact iff_of_false nofun fun h => hbad (h.2 value rfl)

theorem of?_eq (credentials : Option Credentials) (tenant : Option String) :
    of? credentials tenant = (do
      let authorization ← optional? (credentials.map Credentials.authorization)
      let tenant ← optional? (tenant.map Text.encode)
      return ⟨authorization, tenant⟩) := by
  cases credentials <;> cases tenant <;> rfl

/-- The headers are those of the credentials and of the tenant, or there are none. -/
theorem of?_eq_some_iff {credentials : Option Credentials} {tenant : Option String}
    {headers : AuthHeaders} : of? credentials tenant = some headers ↔
      headers = ⟨credentials.map Credentials.authorization, tenant.map Text.encode⟩ ∧
      (∀ v ∈ credentials.map Credentials.authorization, ∀ b ∈ v, isHeaderByte b = true) ∧
      ∀ v ∈ tenant.map Text.encode, ∀ b ∈ v, isHeaderByte b = true := by
  rw [of?_eq]
  constructor
  · intro h
    obtain ⟨authorization, hauthorization, h⟩ := Option.bind_eq_some_iff.mp h
    obtain ⟨value, hvalue, h⟩ := Option.bind_eq_some_iff.mp h
    obtain ⟨rfl, hclean⟩ := optional?_eq_some_iff.mp hauthorization
    obtain ⟨rfl, htenant⟩ := optional?_eq_some_iff.mp hvalue
    exact ⟨(Option.some.inj h).symm, hclean, htenant⟩
  · rintro ⟨rfl, hclean, htenant⟩
    apply Option.bind_eq_some_iff.mpr
    refine ⟨_, optional?_eq_some_iff.mpr ⟨rfl, hclean⟩, ?_⟩
    apply Option.bind_eq_some_iff.mpr
    exact ⟨_, optional?_eq_some_iff.mpr ⟨rfl, htenant⟩, rfl⟩

end AuthHeaders

namespace Config

variable {config : Config} {url : Url}

/-- The characters of the settings that go into headers as they are. -/
def headerChars (config : Config) : List Char :=
  config.credentials.toList.flatMap Credentials.asIs ++ config.tenant.toList.flatMap String.toList

/-- No control character would come into a header. -/
def Clean (config : Config) : Prop := ∀ c ∈ config.headerChars, Text.isControl c = false

instance (config : Config) : Decidable config.Clean :=
  List.decidableBAll (fun c => Text.isControl c = false) config.headerChars

theorem clean_iff : config.Clean ↔
    (∀ v ∈ config.credentials.map Credentials.authorization, ∀ b ∈ v, isHeaderByte b = true) ∧
      ∀ v ∈ config.tenant.map Text.encode, ∀ b ∈ v, isHeaderByte b = true := by
  rw [Clean, headerChars, List.forall_mem_append]
  apply and_congr
  · cases config.credentials with
    | none => exact iff_of_true nofun nofun
    | some c => simpa using (Credentials.all_authorization_iff c).symm
  · cases config.tenant with
    | none => exact iff_of_true nofun nofun
    | some t => simpa using (all_encode_iff t).symm

theorem of?_of_clean (h : config.Clean) : AuthHeaders.of? config.credentials config.tenant =
    some ⟨config.credentials.map Credentials.authorization, config.tenant.map Text.encode⟩ :=
  AuthHeaders.of?_eq_some_iff.mpr ⟨rfl, clean_iff.mp h⟩

theorem sendable_iff : config.Sendable ↔ config.Clean := by
  rw [Sendable, Option.isSome_iff_exists]
  constructor
  · rintro ⟨headers, h⟩
    exact clean_iff.mpr (AuthHeaders.of?_eq_some_iff.mp h).2
  · intro h
    exact ⟨_, of?_of_clean h⟩

end Config

section Headers

variable {config : Config} {url : Url}

/-- The values for a name among headers. -/
def valuesOf (name : String) (headers : List HttpHeader) : List HeaderValue :=
  (headers.filter fun header => header.1 = name).map Prod.snd

/-- A request is made in the name of the settings: it has the authorization of the credentials, behind
that of a user named in the URL, and the tenant. No value holds a control character. -/
structure Config.Authenticates (config : Config) (url : Url) (request : HttpRequest) : Prop where
  authorization : valuesOf HttpRequest.authorizationHeader request.headers =
    (url.userinfo?.map fun user => HttpRequest.basicAuthorization user.1 user.2).toList ++
      (config.credentials.map Credentials.authorization).toList
  tenant : valuesOf tenantHeader request.headers = (config.tenant.map Text.encode).toList
  clean : ∀ header ∈ request.headers, ∀ b ∈ header.2, isHeaderByte b = true

theorem valuesOf_append (name : String) (headers others : List HttpHeader) :
    valuesOf name (headers ++ others) = valuesOf name headers ++ valuesOf name others := by
  rw [valuesOf, List.filter_append, List.map_append]
  rfl

theorem tenantHeader_ne : tenantHeader ≠ HttpRequest.authorizationHeader := by decide

theorem valuesOf_userAgent : valuesOf HttpRequest.authorizationHeader [userAgent] = [] ∧
    valuesOf tenantHeader [userAgent] = [] := by decide

theorem valuesOf_toList (headers : AuthHeaders) :
    valuesOf HttpRequest.authorizationHeader headers.toList = headers.authorization.toList ∧
      valuesOf tenantHeader headers.toList = headers.tenant.toList := by
  obtain ⟨authorization, tenant⟩ := headers
  have hother := tenantHeader_ne.symm
  cases authorization <;> cases tenant <;>
    simp [AuthHeaders.toList, valuesOf, tenantHeader_ne, hother]

/-- A user named in the URL comes first. -/
def userHeader (url : Url) : Option HttpHeader :=
  url.userinfo?.map fun user =>
    (HttpRequest.authorizationHeader, HttpRequest.basicAuthorization user.1 user.2)

theorem headers_get (url : Url) (headers : List HttpHeader) :
    (HttpRequest.get url headers).headers = (userHeader url).toList ++ headers := by
  unfold HttpRequest.get userHeader
  cases url.userinfo? <;> rfl

theorem valuesOf_userHeader (url : Url) :
    valuesOf HttpRequest.authorizationHeader (userHeader url).toList =
        (url.userinfo?.map fun user => HttpRequest.basicAuthorization user.1 user.2).toList ∧
      valuesOf tenantHeader (userHeader url).toList = [] := by
  have hother := tenantHeader_ne.symm
  unfold userHeader
  cases url.userinfo? <;> simp [valuesOf, hother]

theorem all_userHeader (url : Url) :
    ∀ header ∈ (userHeader url).toList, ∀ b ∈ header.2, isHeaderByte b = true := by
  intro header hheader
  obtain ⟨user, -, rfl⟩ := Option.map_eq_some_iff.mp (Option.mem_toList.mp hheader)
  exact Credentials.all_basicAuthorization user.1 user.2

/-- Clean settings give a request for every URL, and it is made in their name. -/
theorem Config.exists_request (h : config.Clean) (url : Url) :
    ∃ request, config.request? url = some request ∧ config.Authenticates url request := by
  let headers : AuthHeaders :=
    ⟨config.credentials.map Credentials.authorization, config.tenant.map Text.encode⟩
  have hrequest : config.request? url = some (.get url (headers.toList ++ [userAgent])) := by
    rw [request?, of?_of_clean h, Option.map_some]
  have hall : (HttpRequest.get url (headers.toList ++ [userAgent])).headers =
      (userHeader url).toList ++ (headers.toList ++ [userAgent]) := headers_get url _
  obtain ⟨huser, hnoTenant⟩ := valuesOf_userHeader url
  obtain ⟨hauthorization, htenant⟩ := valuesOf_toList headers
  obtain ⟨hagent, hagentTenant⟩ := valuesOf_userAgent
  obtain ⟨hcredentials, htenants⟩ := clean_iff.mp h
  refine ⟨_, hrequest, ?_, ?_, ?_⟩
  · rw [hall, valuesOf_append, valuesOf_append, huser, hauthorization, hagent, List.append_nil]
  · rw [hall, valuesOf_append, valuesOf_append, hnoTenant, htenant, hagentTenant, List.append_nil,
      List.nil_append]
  · rw [hall]
    intro header hheader
    simp only [List.mem_append, AuthHeaders.toList, List.mem_map, Option.mem_toList,
      List.mem_singleton] at hheader
    obtain huser | (⟨v, hv, rfl⟩ | ⟨v, hv, rfl⟩) | rfl := hheader
    · exact all_userHeader url header (Option.mem_toList.mpr huser)
    · exact hcredentials v hv
    · exact htenants v hv
    · decide +kernel

end Headers

namespace Fetcher

variable {τ : Type} [HttpTransport τ]

/-- Without a request nothing is sent, and the fetch fails as if the backend were out of reach. -/
theorem fetch_of_unclean (fetcher : Fetcher τ) (h : ¬ fetcher.config.Clean) (windowStart : LineId)
    (limit : Nat) :
    ∃ reason, fetcher.fetch windowStart limit = (.error (.unreachable reason), fetcher) := by
  unfold fetch
  cases fetcher.query.requestUrl fetcher.config.baseUrl windowStart limit with
  | error e => exact ⟨e.message, rfl⟩
  | ok url =>
    simp only [Config.request?_eq_none (mt Config.sendable_iff.mp h)]
    exact ⟨unsendable, rfl⟩

theorem transport_fetch (fetcher : Fetcher τ) {windowStart : LineId} {limit : Nat} {url : Url}
    {request : HttpRequest}
    (hurl : fetcher.query.requestUrl fetcher.config.baseUrl windowStart limit = .ok url)
    (hrequest : fetcher.config.request? url = some request) :
    (fetcher.fetch windowStart limit).2.transport =
      (HttpTransport.send fetcher.transport request).2 := by
  unfold fetch
  simp only [hurl, hrequest]
  generalize HttpTransport.send fetcher.transport request = answer
  obtain ⟨_ | reply, transport⟩ := answer <;> rfl

end Fetcher

namespace Retriever

variable {τ : Type} [HttpTransport τ] {config : Config}

theorem retrieve_of_unclean (hvalid : config.validate = .ok ()) (hclean : ¬ config.Clean)
    (hlines : 0 < config.maxLines) (transport : τ) (scope : RunScope) (cursors : CursorCache) :
    ∃ reason source, (retrieve ⟨config, transport⟩ scope cursors).1 =
      .refused (.unreachable reason) source ∧ source.fetcher.transport = transport := by
  let source := pageSource ⟨config, transport⟩ scope
  have hbreaker : source.cursor.breaker? source.limits = none := by
    have hqueries : 0 < config.maxQueries :=
      Nat.pos_of_ne_zero (Config.validate_eq_ok_iff.mp hvalid).maxQueries
    exact Cursor.breaker?_eq_none_iff.mpr ⟨hlines, hqueries⟩
  obtain ⟨reason, hfetch⟩ := Fetcher.fetch_of_unclean source.fetcher hclean
    source.cursor.windowStart source.limits.pageSize
  have hnext := PagedSource.fetchNext_of_failed (s := source) rfl hbreaker hfetch
  have hfailed : (PageSource.fetchNext source).1 = .error (.unreachable reason) := by
    rw [PagedSource.fetchNext_paged, hnext]
  have hrefused := Opening.ofSource_of_error config.streamOptions hfailed
  refine ⟨reason, _, retrieve_of_refused hrefused, ?_⟩
  rw [PagedSource.fetchNext_paged, hnext]
  rfl

theorem checkSetup_of_unclean (hclean : ¬ config.Clean) (transport : τ) :
    ∃ message, checkSetup ⟨config, transport⟩ = (.failed message, transport) := by
  have hnone := Config.request?_eq_none (mt Config.sendable_iff.mp hclean)
  simp only [checkSetup, hnone]
  split
  · exact ⟨_, rfl⟩
  · exact ⟨_, rfl⟩

/-- Which settings give requests that can be sent, of those that pass the check. Where no control
character but a tab stands in a token, a key or a tenant, there is a request for every URL; its only
authorization is that of the credentials, unless the URL names a user, its only tenant that of the
settings, and it goes out whatever its URL is. Where one does, the settings are used all the same: no
request is sent, every fetch and the check of the setup fail, and a log that may have lines is refused as
if the backend were out of reach. -/
theorem requests_of_validate {config : Config} (hvalid : config.validate = .ok ()) (transport : τ) :
    Retriever.of? config transport = .ok ⟨config, transport⟩ ∧
    (config.Clean → ∀ url, ∃ request, config.request? url = some request ∧
      config.Authenticates url request ∧
      ∀ query windowStart limit,
        RunQuery.requestUrl query config.baseUrl windowStart limit = .ok url →
        (Fetcher.fetch ⟨transport, config, query⟩ windowStart limit).2.transport =
          (HttpTransport.send transport request).2) ∧
    (¬ config.Clean → (∀ url, config.request? url = none) ∧
      (∀ query windowStart limit, ∃ reason,
        Fetcher.fetch ⟨transport, config, query⟩ windowStart limit =
          (.error (.unreachable reason), ⟨transport, config, query⟩)) ∧
      (0 < config.maxLines → ∀ scope cursors, ∃ reason source,
        (retrieve ⟨config, transport⟩ scope cursors).1 = .refused (.unreachable reason) source ∧
          source.fetcher.transport = transport) ∧
      ∃ message, checkSetup ⟨config, transport⟩ = (.failed message, transport)) := by
  refine ⟨?_, ?_, ?_⟩
  · rw [Retriever.of?, hvalid]
    rfl
  · intro hclean url
    obtain ⟨request, hrequest, hauthenticates⟩ := Config.exists_request hclean url
    refine ⟨request, hrequest, hauthenticates, ?_⟩
    intro query windowStart limit hurl
    exact Fetcher.transport_fetch ⟨transport, config, query⟩ hurl hrequest
  · intro hclean
    refine ⟨?_, ?_, ?_, checkSetup_of_unclean hclean transport⟩
    · exact Config.request?_eq_none (mt Config.sendable_iff.mp hclean)
    · intro query windowStart limit
      exact Fetcher.fetch_of_unclean ⟨transport, config, query⟩ hclean windowStart limit
    · intro hlines scope cursors
      exact retrieve_of_unclean hvalid hclean hlines transport scope cursors

section Tokens

/-- Settings with a token and a tenant that can be sent. -/
def teamToken : Config :=
  { prefixed with credentials := some (.bearer "s3cret"), tenant := some "team" }

theorem validate_teamToken : teamToken.validate = .ok () := by decide +kernel

theorem requests_of_validate_teamToken : teamToken.validate = .ok () ∧ teamToken.Clean ∧
    ∀ url, ∃ request, teamToken.request? url = some request ∧
      valuesOf tenantHeader request.headers = [Text.encode "team"] ∧
      (url.userinfo? = none → valuesOf HttpRequest.authorizationHeader request.headers =
        [Text.encode "Bearer s3cret"]) := by
  have hclean : teamToken.Clean := by decide +kernel
  refine ⟨validate_teamToken, hclean, ?_⟩
  intro url
  obtain ⟨-, hsent, -⟩ := requests_of_validate validate_teamToken (ScriptedTransport.mk expiring 0)
  obtain ⟨request, hrequest, hauthenticates, -⟩ := hsent hclean url
  refine ⟨request, hrequest, hauthenticates.tenant, ?_⟩
  intro hnobody
  rw [hauthenticates.authorization, hnobody]
  rfl

/-- Settings with a token that was read together with the end of its line. -/
def lineEnded : Config := { prefixed with credentials := some (.bearer "s3cret\n") }

theorem validate_lineEnded : lineEnded.validate = .ok () := by decide +kernel

/-- A token with the end of its line passes the check, and no request carries it. -/
theorem lineEnded_unsendable : lineEnded.validate = .ok () ∧ (∀ url, lineEnded.request? url = none) ∧
    ∀ scope cursors, ∃ reason source,
      (retrieve ⟨lineEnded, ScriptedTransport.mk expiring 0⟩ scope cursors).1 =
        .refused (.unreachable reason) source ∧ source.fetcher.transport.sent = 0 := by
  have hclean : ¬ lineEnded.Clean := by decide +kernel
  refine ⟨validate_lineEnded, ?_, ?_⟩
  · exact Config.request?_eq_none (mt Config.sendable_iff.mp hclean)
  · intro scope cursors
    obtain ⟨reason, source, hrefused, htransport⟩ := retrieve_of_unclean validate_lineEnded hclean
      (by decide) (ScriptedTransport.mk expiring 0) scope cursors
    exact ⟨reason, source, hrefused, congrArg ScriptedTransport.sent htransport⟩

end Tokens

end Retriever

end Loki

end RunLog
