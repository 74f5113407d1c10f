import RunLog.Proofs.Endpoints

namespace RunLog

namespace Url

/-- A path without the slashes at its end. -/
def withoutSlashes (path : List Char) : List Char := (path.reverse.dropWhile (· = '/')).reverse

/-- The URL of the endpoint under a base URL, with the parameters of a request. -/
structure IsEndpointOf (url base : Url) (pairs : List (String × String)) : Prop where
  scheme : url.scheme = base.scheme
  authority : url.authority = base.authority
  path : url.path.text = withoutSlashes base.path.text ++ Loki.queryRangePath.toList
  fragment : url.fragment = none
  query : url.query.map formDecode = some pairs

section Slashes

variable {path : List Char}

theorem withoutSlashes_concat (path : List Char) :
    withoutSlashes (path ++ ['/']) = withoutSlashes path := by
  rw [withoutSlashes, List.reverse_append, List.reverse_singleton, List.singleton_append,
    List.dropWhile_cons_of_pos (by simp), withoutSlashes]

theorem getLast?_withoutSlashes (path : List Char) : (withoutSlashes path).getLast? ≠ some '/' := by
  intro h
  have hhead := List.head?_dropWhile_not (fun c => decide (c = '/')) path.reverse
  rw [withoutSlashes, List.getLast?_reverse] at h
  rw [h] at hhead
  simp at hhead

theorem withoutSlashes_eq_self_iff : withoutSlashes path = path ↔ path.getLast? ≠ some '/' := by
  constructor
  · intro h
    rw [← h]
    exact getLast?_withoutSlashes path
  · intro h
    rcases List.eq_nil_or_concat path with rfl | ⟨front, c, rfl⟩
    · rfl
    · rw [List.concat_eq_append] at h ⊢
      have hc : c ≠ '/' := by
        rintro rfl
        exact h List.getLast?_concat
      rw [withoutSlashes, List.reverse_append, List.reverse_singleton, List.singleton_append,
        List.dropWhile_cons_of_neg (by simp [hc]), List.reverse_cons, List.reverse_reverse]

theorem getLast?_of_twoSlashes (h : ['/', '/'] <:+ path) : path.getLast? = some '/' := by
  obtain ⟨front, rfl⟩ := h
  simp

theorem twoSlashes_concat_iff : ['/', '/'] <:+ path ++ ['/'] ↔ path.getLast? = some '/' := by
  constructor
  · rintro ⟨front, hfront⟩
    have hjoin : (front ++ ['/']) ++ ['/'] = path ++ ['/'] := by simpa using hfront
    rw [← List.append_cancel_right hjoin, List.getLast?_concat]
  · intro h
    obtain ⟨front, rfl⟩ := List.getLast?_eq_some_iff.mp h
    exact ⟨front, by simp⟩

end Slashes

section Endpoint

variable {text rest : List Char}

theorem getLast?_endpoint (front : List Char) :
    (front ++ Loki.queryRangePath.toList).getLast? = some 'e' := by
  rw [List.getLast?_append, show Loki.queryRangePath.toList.getLast? = some 'e' by decide,
    Option.some_or]

theorem endsPath_endpoint : ∀ c ∈ Loki.queryRangePath.toList, endsPath c = false := by
  have hall : Loki.queryRangePath.toList.all (!endsPath ·) = true := rfl
  intro c hc
  simpa using List.all_eq_true.mp hall c hc

/-- The path under the endpoint's URL, where no query and no fragment is in the way. -/
theorem path_endpoint_iff {c : Char} (hrest : BehindAuthority text rest)
    (hplain : ∀ d ∈ rest, endsPath d = false) (hlast : text.getLast? = some c) :
    (pathAfterAuthority .special (rest ++ Loki.queryRangePath.toList)).text =
        withoutSlashes (pathAfterAuthority .special rest).text ++ Loki.queryRangePath.toList ↔
      ¬ ['/', '/'] <:+ (pathAfterAuthority .special rest).text ∧ isSlash .special c = false := by
  have hbegin : ∀ d, rest.head? = some d → isSlash .special d = true := by
    intro d hd
    have hends := hrest.head d hd
    rwa [endsAuthority_eq, hplain d (List.mem_of_head? hd), Bool.or_false] at hends
  cases hc : isSlash .special c with
  | true =>
    have hends : endsAuthority .special c = true := by rw [endsAuthority_eq, hc, Bool.true_or]
    have hrestLast := hrest.getLast_eq (hrest.last c hlast hends)
    -- The path keeps the slash at its end in front of the endpoint.
    obtain ⟨hpath, hslash⟩ := pathAfterAuthority_endpoint_of_slash hbegin (hrestLast.trans hlast) hc
    rw [hpath, List.append_left_inj, eq_comm, withoutSlashes_eq_self_iff]
    simp [hslash]
  | false =>
    have hend : ∀ d, rest.getLast? = some d → isSlash .special d = false := by
      intro d hd
      have hne : rest ≠ [] := by
        rintro rfl
        cases hd
      rw [hrest.getLast_eq hne, hlast] at hd
      rw [← Option.some.inj hd, hc]
    -- A path whose text ends in no slash ends in one only if it is empty or dots end it.
    obtain ⟨front, hpath, hbase | ⟨hbase, hnot⟩⟩ := pathAfterAuthority_endpoint hbegin hend
    · rw [hpath, hbase, List.append_left_inj, eq_comm, withoutSlashes_concat,
        withoutSlashes_eq_self_iff, twoSlashes_concat_iff]
      simp
    · rw [hpath, hbase, List.append_left_inj, eq_comm, withoutSlashes_eq_self_iff]
      have htwo : ¬ ['/', '/'] <:+ front := fun h => hnot (getLast?_of_twoSlashes h)
      simp [hnot, htwo]

/-- With its parameters, the URL behind whose text the endpoint was put is that of the endpoint when
the text has neither a query nor a fragment and does not end in slashes. -/
theorem isEndpointOf_iff {c : Char} (scheme : List Char) (authority : Authority)
    (hrest : BehindAuthority text rest) (hlast : text.getLast? = some c)
    (pairs : List (String × String)) :
    ((webUrl scheme authority (rest ++ Loki.queryRangePath.toList)).addPairs pairs).IsEndpointOf
        (webUrl scheme authority rest) pairs ↔
      (webUrl scheme authority rest).query = none ∧ (webUrl scheme authority rest).fragment = none ∧
        ¬ ['/', '/'] <:+ (webUrl scheme authority rest).path.text ∧ isSlash .special c = false := by
  by_cases hmark : ∃ d ∈ rest, endsPath d = true
  · -- The endpoint becomes part of the query or of the fragment, and the path stays as it is.
    obtain ⟨d, hd, hends⟩ := hmark
    have hsome := webUrl_of_mark scheme authority hd hends
    constructor
    · intro h
      have hsame := path_webUrl_append scheme authority hd hends Loki.queryRangePath.toList
      have hends : (webUrl scheme authority rest).path.text =
          withoutSlashes (webUrl scheme authority rest).path.text ++ Loki.queryRangePath.toList :=
        (congrArg UrlPath.text hsame).symm.trans h.path
      have hlast : (webUrl scheme authority rest).path.text.getLast? ≠ some '/' := by
        rw [hends, getLast?_endpoint]
        decide
      rw [withoutSlashes_eq_self_iff.mpr hlast] at hends
      exact absurd hends (by simp [queryRangePath_eq])
    · rintro ⟨hquery, hfragment, -⟩
      exact absurd hsome (by simp [hquery, hfragment])
  · have hplain : ∀ d ∈ rest, endsPath d = false := by simpa using hmark
    have hboth : ∀ d ∈ rest ++ Loki.queryRangePath.toList, endsPath d = false := by
      intro d hd
      exact (List.mem_append.mp hd).elim (hplain d) (endsPath_endpoint d)
    rw [webUrl_of_plain hplain, webUrl_of_plain hboth]
    constructor
    · intro h
      exact ⟨rfl, rfl, (path_endpoint_iff hrest hplain hlast).mp h.path⟩
    · rintro ⟨-, -, h⟩
      refine ⟨rfl, rfl, (path_endpoint_iff hrest hplain hlast).mpr h, rfl, ?_⟩
      exact congrArg some (formDecode_appendPairs pairs)

end Endpoint

end Url

namespace Loki

theorem checkUrl_eq_ok_iff {place url : String} : checkUrl place url = .ok () ↔
    ∃ parsed, Url.parse url = .ok parsed ∧
      (parsed.schemeName = "http" ∨ parsed.schemeName = "https") := by
  unfold checkUrl
  cases h : Url.parse url with
  | error e => simp
  | ok parsed => simp [or_iff_not_imp_left]

namespace ConfigError

/-- Refuses settings of which something holds. -/
def refuse (wrong : Prop) [Decidable wrong] (e : ConfigError) : Except ConfigError Unit :=
  if wrong then .error e else .ok ()

variable {α : Type} {wrong : Prop} [Decidable wrong] {e : ConfigError}
  {check next : Except ConfigError Unit}

theorem refuse_eq_ok_iff : refuse wrong e = .ok () ↔ ¬ wrong := by
  unfold refuse
  split
  · next h => exact iff_of_false nofun (not_not_intro h)
  · next h => exact iff_of_true rfl h

theorem refuse_bind : (do refuse wrong e; next) = if wrong then (do throw e; next) else next := by
  unfold refuse
  split <;> rfl

theorem bind_eq_ok_iff : (do check; next) = .ok () ↔ check = .ok () ∧ next = .ok () := by
  cases check with
  | error e => exact iff_of_false nofun fun hboth => nomatch hboth.1
  | ok => exact (and_iff_right rfl).symm

theorem forM_eq_ok_iff {o : Option α} {f : α → Except ConfigError Unit} :
    o.forM f = .ok () ↔ ∀ a ∈ o, f a = .ok () := by
  cases o with
  | none => exact iff_of_true rfl nofun
  | some a => simp [Option.forM]

end ConfigError

namespace Config

open ConfigError

/-- What the check of settings asks of them. -/
structure Valid (config : Config) : Prop where
  url : ¬ config.baseUrl.isEmpty
  urlParses : checkUrl "loki" config.baseUrl = .ok ()
  serviceName : ¬ Text.isBlankText config.serviceName
  credentials : ∀ c ∈ config.credentials, c.validate = .ok ()
  tenant : ∀ t ∈ config.tenant, ¬ Text.isBlankText t
  pageSize : config.pageSize ≠ 0
  maxQueries : config.maxQueries ≠ 0
  grafana : ∀ g ∈ config.grafana, ¬ Text.isBlankText g.baseUrl ∧
    checkUrl "grafana" (Text.trim g.baseUrl) = .ok ()

theorem validate_eq (config : Config) : config.validate = (do
    refuse config.baseUrl.isEmpty (.missingField "url")
    checkUrl "loki" config.baseUrl
    refuse (Text.isBlankText config.serviceName) (.missingField "service_name")
    config.credentials.forM Credentials.validate
    config.tenant.forM fun tenant => refuse (Text.isBlankText tenant) (.missingField "tenant_id")
    refuse (config.pageSize = 0) (.invalidLimit "page_size must be at least 1")
    refuse (config.maxQueries = 0) (.invalidLimit "max_queries must be at least 1")
    config.grafana.forM fun grafana => do
      refuse (Text.isBlankText grafana.baseUrl) (.missingField "grafana.base_url")
      checkUrl "grafana" (Text.trim grafana.baseUrl)) := by
  -- The same checks, whichever of the optional settings there are.
  unfold validate
  cases config.credentials <;> cases config.tenant <;> cases config.grafana <;>
    simp only [refuse_bind, Option.forM] <;> rfl

theorem validate_eq_ok_iff {config : Config} : config.validate = .ok () ↔ config.Valid := by
  rw [validate_eq]
  simp only [bind_eq_ok_iff, refuse_eq_ok_iff, forM_eq_ok_iff]
  constructor
  · rintro ⟨hurl, hparses, hname, hcredentials, htenant, hpage, hqueries, hgrafana⟩
    exact ⟨hurl, hparses, hname, hcredentials, htenant, hpage, hqueries, hgrafana⟩
  · rintro ⟨hurl, hparses, hname, hcredentials, htenant, hpage, hqueries, hgrafana⟩
    exact ⟨hurl, hparses, hname, hcredentials, htenant, hpage, hqueries, hgrafana⟩

theorem checkUrl_of_validate {config : Config} (h : config.validate = .ok ()) :
    checkUrl "loki" config.baseUrl = .ok () := (validate_eq_ok_iff.mp h).urlParses

end Config

theorem Config.dropSlashes_baseUrl (config : Config) :
    Text.dropSlashes config.baseUrl = config.baseUrl := by
  have htext (s : String) : Text.dropSlashes s = String.ofList (Url.withoutSlashes s.toList) := rfl
  have hlast := Url.getLast?_withoutSlashes (Text.trim config.url).toList
  rw [baseUrl, htext, htext, String.toList_ofList, Url.withoutSlashes_eq_self_iff.mpr hlast]

/-- Settings that pass the check lead every request to the host of their base URL. Unless a space or a
control character ends that URL, the request is made, and it goes to the endpoint exactly when the base
URL has neither a query nor a fragment and nothing that still counts for a slash at its end. -/
theorem requestUrl_isEndpointOf_iff {config : Config} (hvalid : config.validate = .ok ())
    (hlast : ∀ c, (config.baseUrl.toList.filter Url.stays).getLast? = some c → Url.atEnd c = false)
    (scope : RunScope) (windowStart : LineId) (limit : Nat) :
    ∃ base url, Url.parse config.baseUrl = .ok base ∧
      (config.query scope).requestUrl config.baseUrl windowStart limit = .ok url ∧
      url.scheme = base.scheme ∧ url.authority = base.authority ∧
      (url.IsEndpointOf base ((config.query scope).pairs windowStart limit) ↔
        base.query = none ∧ base.fragment = none ∧ ¬ ['/', '/'] <:+ base.path.text ∧
          ∀ c, (config.baseUrl.toList.filter Url.stays).getLast? = some c →
            Url.isSlash .special c = false) := by
  obtain ⟨base, hparse, hweb⟩ := checkUrl_eq_ok_iff.mp (Config.checkUrl_of_validate hvalid)
  obtain ⟨c, hc⟩ := Url.exists_last_of_parse hparse
  obtain ⟨authority, rest, hrest, hbase, hrequest⟩ := Url.parse_endpoint hparse hweb hc (hlast c hc)
  obtain ⟨-, -, hcleaned⟩ := Url.cleaned_of_last (hlast c hc) hc
  have hslash : (∀ d, (config.baseUrl.toList.filter Url.stays).getLast? = some d →
      Url.isSlash .special d = false) ↔ Url.isSlash .special c = false := by
    simp [hc]
  rw [hslash]
  have hiff := Url.isEndpointOf_iff base.scheme authority hrest hcleaned
    ((config.query scope).pairs windowStart limit)
  rw [← hbase] at hiff
  refine ⟨base, _, hparse, ?_, ?_, ?_, hiff⟩
  · rw [RunQuery.requestUrl, Config.dropSlashes_baseUrl, Url.parseWith, hrequest]
    rfl
  · rfl
  · rw [hbase]
    rfl

/-- Settings for a Loki behind a path of a gateway. -/
def prefixed : Config := { url := "http://[::1]:3100/gw/" }

def oneRun : RunScope := ⟨"ci", 1, "t", none, { seconds := 0, nanos := 0 }, none⟩

set_option maxRecDepth 4000 in
theorem validate_prefixed : prefixed.validate = .ok () := by decide

theorem last_prefixed : (prefixed.baseUrl.toList.filter Url.stays).getLast? = some 'w' := by decide

set_option maxRecDepth 4000 in
theorem parse_prefixed : Url.parse prefixed.baseUrl = .ok
    ⟨"http".toList, some ⟨[], none, "[::1]".toList, some 3100⟩, .segments ["gw".toList], none, none⟩ := by
  decide

/-- Behind a path of a gateway, requests reach the endpoint. -/
theorem requestUrl_isEndpointOf_prefixed : prefixed.validate = .ok () ∧
    ∃ base url, Url.parse prefixed.baseUrl = .ok base ∧ base.path.text = "/gw".toList ∧
      (prefixed.query oneRun).requestUrl prefixed.baseUrl ⟨5⟩ 10 = .ok url ∧
      url.IsEndpointOf base ((prefixed.query oneRun).pairs ⟨5⟩ 10) := by
  have hlast : ∀ c, (prefixed.baseUrl.toList.filter Url.stays).getLast? = some c → c = 'w' := by
    intro c hc
    rw [last_prefixed] at hc
    exact (Option.some.inj hc).symm
  have hvisible : ∀ c, (prefixed.baseUrl.toList.filter Url.stays).getLast? = some c →
      Url.atEnd c = false := by
    intro c hc
    rw [hlast c hc]
    decide
  obtain ⟨base, url, hparse, hrequest, -, -, hiff⟩ :=
    requestUrl_isEndpointOf_iff validate_prefixed hvisible oneRun ⟨5⟩ 10
  rw [parse_prefixed] at hparse
  cases hparse
  refine ⟨validate_prefixed, _, url, parse_prefixed, by decide, hrequest, hiff.mpr ⟨rfl, rfl, ?_, ?_⟩⟩
  · intro htwo
    exact absurd (Url.getLast?_of_twoSlashes htwo) (by decide)
  · intro c hc
    rw [hlast c hc]
    decide

/-- Settings with a query in their base URL. -/
def queried : Config := { url := "http://[::1]:3100?x=1" }

set_option maxRecDepth 4000 in
theorem validate_queried : queried.validate = .ok () := by decide

set_option maxRecDepth 4000 in
theorem parse_queried : Url.parse queried.baseUrl = .ok
    ⟨"http".toList, some ⟨[], none, "[::1]".toList, some 3100⟩, .segments [[]], some "x=1".toList,
      none⟩ := by
  decide

set_option maxRecDepth 4000 in
theorem path_queried : (Url.parse (Text.dropSlashes queried.baseUrl ++ queryRangePath)).map (·.path) =
    .ok (.segments [[]]) := by
  decide

/-- A base URL with a query passes the check, and no request under it reaches the endpoint. -/
theorem queried_not_endpoint : queried.validate = .ok () ∧
    ∃ base url, Url.parse queried.baseUrl = .ok base ∧
      (queried.query oneRun).requestUrl queried.baseUrl ⟨5⟩ 10 = .ok url ∧
      ¬ url.IsEndpointOf base ((queried.query oneRun).pairs ⟨5⟩ 10) := by
  cases hparse : Url.parse (Text.dropSlashes queried.baseUrl ++ queryRangePath) with
  | error e =>
    have hpath := path_queried
    rw [hparse] at hpath
    cases hpath
  | ok endpoint =>
    have hpath := path_queried
    rw [hparse] at hpath
    have hsegments : endpoint.path = .segments [[]] := Except.ok.inj hpath
    refine ⟨validate_queried, _, endpoint.addPairs ((queried.query oneRun).pairs ⟨5⟩ 10), parse_queried,
      ?_, fun h => ?_⟩
    · rw [RunQuery.requestUrl, Url.parseWith, hparse]
      rfl
    · have htext := h.path
      change endpoint.path.text = _ at htext
      rw [hsegments] at htext
      exact absurd htext (by decide)

end Loki

end RunLog
