import RunLog.Loki.Retriever
import RunLog.Proofs.Answers
import RunLog.Proofs.Budget
import RunLog.Proofs.Requests
import RunLog.Proofs.Surfacing
import RunLog.Proofs.Volume

namespace RunLog

namespace PagedSource

variable {φ : Type} [PageFetcher φ] {s : PagedSource φ} {fetcher : φ}

theorem fetchNext_of_failed (he : s.cursor.exhausted = false) (hb : s.cursor.breaker? s.limits = none)
    {e : RetrievalError}
    (hf : PageFetcher.fetch s.fetcher s.cursor.windowStart s.limits.pageSize = (.error e, fetcher)) :
    s.fetchNext = (.error e, { s with
      fetcher, cursor := { s.cursor with queriesIssued := s.cursor.queriesIssued + 1 } }) := by
  rw [fetchNext, if_neg (by simp [he]), hb]
  simp only [hf]

/-- A full page within the bound on lines is given out whole, and more may follow. -/
theorem fetchNext_of_full (he : s.cursor.exhausted = false) (hb : s.cursor.breaker? s.limits = none)
    {page : Page}
    (hf : PageFetcher.fetch s.fetcher s.cursor.windowStart s.limits.pageSize = (.ok page, fetcher))
    (hfull : s.limits.pageSize ≤ page.lines.length)
    (hroom : s.cursor.linesEmitted + page.lines.length ≤ s.limits.maxLines) :
    ∃ cursor : Cursor,
      s.fetchNext = (.ok (.page ⟨Cursor.arrange page.lines, page.status⟩),
        { s with fetcher, cursor }) ∧
      cursor.queriesIssued = s.cursor.queriesIssued + 1 ∧
      cursor.linesEmitted = s.cursor.linesEmitted + page.lines.length ∧ cursor.exhausted = false := by
  let asked := { s.cursor with queriesIssued := s.cursor.queriesIssued + 1 }
  have hlength : (Cursor.arrange page.lines).length = page.lines.length :=
    (Cursor.arrange_perm page.lines).length_eq
  have hemitted : asked.emitted s.limits page.lines = Cursor.arrange page.lines := by
    refine List.take_of_length_le ?_
    change _ ≤ s.limits.maxLines - s.cursor.linesEmitted
    omega
  have hmore : (asked.absorb s.limits page.lines).exhausted = false := by
    change decide (_ ∧ _) = false
    rw [decide_eq_false_iff_not]
    omega
  refine ⟨asked.absorb s.limits page.lines, ?_, Cursor.absorb_queriesIssued _ _ _, ?_, hmore⟩
  · rw [fetchNext, if_neg (by simp [he]), hb]
    simp only [hf]
    change (Except.ok (if (asked.emitted s.limits page.lines).isEmpty &&
      (asked.absorb s.limits page.lines).exhausted then _ else _), _) = _
    rw [hmore, Bool.and_false, if_neg Bool.false_ne_true, hemitted]
  · rw [Cursor.absorb_linesEmitted, hemitted, hlength]

/-- A source that is drained to an error is not at its end. -/
theorem going_of_drain {e : RetrievalError} (h : (PageSource.drain s).2.1 = .error e) :
    s.cursor.exhausted = false ∧ s.cursor.breaker? s.limits = none := by
  cases he : s.cursor.exhausted with
  | true =>
    rw [drain_of_exhausted he] at h
    exact nomatch h
  | false =>
    cases hb : s.cursor.breaker? s.limits with
    | some breaker =>
      rw [drain_of_breaker he hb] at h
      exact nomatch h
    | none => exact ⟨rfl, rfl⟩

end PagedSource

namespace Loki

/-- A transport for which it is given beforehand what comes of each request. -/
structure ScriptedTransport where
  outcomes : Nat → Except String HttpReply
  /-- Number of requests. -/
  sent : Nat := 0

instance : HttpTransport ScriptedTransport where
  send transport _ := (transport.outcomes transport.sent, { transport with sent := transport.sent + 1 })

namespace Config

/-- The credentials and the tenant can be written into headers. -/
def Sendable (config : Config) : Prop :=
  (AuthHeaders.of? config.credentials config.tenant).isSome = true

theorem request?_eq_none {config : Config} (hsent : ¬ config.Sendable) (url : Url) :
    config.request? url = none := by
  rw [request?, Option.not_isSome_iff_eq_none.mp hsent, Option.map_none]

/-- The requests for the pages of a scope have URLs. -/
def Builds (config : Config) (scope : RunScope) : Prop :=
  ∀ windowStart, ∃ url, (config.query scope).requestUrl config.baseUrl windowStart
    config.limits.pageSize = .ok url

/-- Settings that pass the check have URLs for their requests, unless a space or a control character ends
the base URL. -/
theorem builds_of_validate {config : Config} (hvalid : config.validate = .ok ())
    (hlast : ∀ c, (config.baseUrl.toList.filter Url.stays).getLast? = some c → Url.atEnd c = false)
    (scope : RunScope) : config.Builds scope := by
  obtain ⟨base, hparse, hweb⟩ := checkUrl_eq_ok_iff.mp (checkUrl_of_validate hvalid)
  obtain ⟨c, hc⟩ := Url.exists_last_of_parse hparse
  obtain ⟨authority, rest, -, -, hrequest⟩ := Url.parse_endpoint hparse hweb hc (hlast c hc)
  intro windowStart
  rw [RunQuery.requestUrl, dropSlashes_baseUrl, Url.parseWith, hrequest]
  exact ⟨_, rfl⟩

/-- What came of a request is a page. -/
inductive Brings (config : Config) : Except String HttpReply → Page → Prop where
  | page {status : Nat} {body : List UInt8} {lines : List LogLine} (hsent : config.Sendable)
    (hstatus : status / 100 = 2)
    (hbody : QueryResponse.parseBody (Text.decodeLossy body) = .ok lines) :
    Brings config (.ok ⟨status, .ok body⟩) ⟨lines, status⟩

/-- What came of a request is an error: there was no reply or only the begin of one, the status is not
one of success, or the body is not an answer with lines. -/
inductive Fails (config : Config) : Except String HttpReply → RetrievalError → Prop where
  | unsendable {outcome : Except String HttpReply} (hsent : ¬ config.Sendable) :
    Fails config outcome (.unreachable unsendable)
  | unreachable {reason : String} (hsent : config.Sendable) :
    Fails config (.error reason) (.unreachable reason)
  | brokenOff {status : Nat} {reason : String} (hsent : config.Sendable) :
    Fails config (.ok ⟨status, .error reason⟩) (.unreachable reason)
  | query {status : Nat} {body : List UInt8} (hsent : config.Sendable) (hstatus : status / 100 ≠ 2) :
    Fails config (.ok ⟨status, .ok body⟩) (.query status (Text.decodeLossy body))
  | malformed {status : Nat} {body : List UInt8} {reason : String} (hsent : config.Sendable)
    (hstatus : status / 100 = 2)
    (hbody : QueryResponse.parseBody (Text.decodeLossy body) = .error (.malformed reason)) :
    Fails config (.ok ⟨status, .ok body⟩) (.malformed reason)

variable {config : Config} {outcome : Except String HttpReply} {page : Page} {e : RetrievalError}

theorem brings_or_fails (config : Config) (outcome : Except String HttpReply) :
    (∃ page, config.Brings outcome page) ∨ ∃ e, config.Fails outcome e := by
  by_cases hsent : config.Sendable
  · rcases outcome with reason | ⟨status, reason | body⟩
    · exact .inr ⟨_, .unreachable hsent⟩
    · exact .inr ⟨_, .brokenOff hsent⟩
    · by_cases hstatus : status / 100 = 2
      · cases hbody : QueryResponse.parseBody (Text.decodeLossy body) with
        | ok lines => exact .inl ⟨_, .page hsent hstatus hbody⟩
        | error e =>
          obtain ⟨reason, rfl⟩ := QueryResponse.malformed_of_parseBody hbody
          exact .inr ⟨_, .malformed hsent hstatus hbody⟩
      · exact .inr ⟨_, .query hsent hstatus⟩
  · exact .inr ⟨_, .unsendable hsent⟩

/-- A fetch never says by itself that credentials were refused. -/
theorem Fails.ne_authentication (h : config.Fails outcome e) (reason : String) :
    e ≠ .authentication reason := by
  cases h <;> exact nofun

/-- From the given number of requests and of lines on, requests bring the pages and the next one fails.
No bound is reached before, and each page is full, so another one is asked for. -/
inductive FailsFrom (config : Config) (outcomes : Nat → Except String HttpReply) :
    Nat → Nat → List Page → RetrievalError → Prop where
  | now {requests lines : Nat} {e : RetrievalError} (hqueries : requests < config.limits.maxQueries)
    (hlines : lines < config.limits.maxLines) (h : config.Fails (outcomes requests) e) :
    FailsFrom config outcomes requests lines [] e
  | later {requests lines : Nat} {page : Page} {pages : List Page} {e : RetrievalError}
    (hqueries : requests < config.limits.maxQueries) (hlines : lines < config.limits.maxLines)
    (h : config.Brings (outcomes requests) page)
    (hfull : config.limits.pageSize ≤ page.lines.length)
    (hmore : FailsFrom config outcomes (requests + 1) (lines + page.lines.length) pages e) :
    FailsFrom config outcomes requests lines (page :: pages) e

namespace FailsFrom

variable {outcomes : Nat → Except String HttpReply} {requests lines : Nat} {pages : List Page}

theorem lines_lt (h : config.FailsFrom outcomes requests lines pages e) :
    lines < config.limits.maxLines := by
  cases h with
  | now _ hlines => exact hlines
  | later _ hlines => exact hlines

theorem fails (h : config.FailsFrom outcomes requests lines pages e) :
    config.Fails (outcomes (requests + pages.length)) e := by
  induction h with
  | now _ _ h => exact h
  | later _ _ _ _ _ ih =>
    rw [List.length_cons, Nat.add_comm _ 1, ← Nat.add_assoc]
    exact ih

end FailsFrom

end Config

namespace Fetcher

variable {fetcher : Fetcher ScriptedTransport} {outcome : Except String HttpReply} {page : Page}
  {e : RetrievalError} {windowStart : LineId} {limit : Nat}

/-- What is left of a fetcher when it was asked once more. -/
structure Asked (before after : Fetcher ScriptedTransport) : Prop where
  config : after.config = before.config
  query : after.query = before.query
  outcomes : after.transport.outcomes = before.transport.outcomes
  sent : before.config.Sendable → after.transport.sent = before.transport.sent + 1

/-- A request that has a URL and can be sent is sent, and what comes of it decides. -/
theorem fetch_of_sendable (hsent : fetcher.config.Sendable)
    (hurl : ∃ url, fetcher.query.requestUrl fetcher.config.baseUrl windowStart limit = .ok url) :
    ∃ after, fetcher.Asked after ∧ fetcher.fetch windowStart limit =
      (match fetcher.transport.outcomes fetcher.transport.sent with
        | .error reason => .error (.unreachable reason)
        | .ok reply => pageOf reply, after) := by
  obtain ⟨url, hurl⟩ := hurl
  obtain ⟨headers, hheaders⟩ := Option.isSome_iff_exists.mp hsent
  have hrequest : fetcher.config.request? url = some (.get url (headers.toList ++ [userAgent])) := by
    rw [Config.request?, hheaders, Option.map_some]
  have hsend (request : HttpRequest) : HttpTransport.send fetcher.transport request =
      (fetcher.transport.outcomes fetcher.transport.sent,
        { fetcher.transport with sent := fetcher.transport.sent + 1 }) := rfl
  refine ⟨{ fetcher with transport := { fetcher.transport with sent := fetcher.transport.sent + 1 } },
    ⟨rfl, rfl, rfl, fun _ => rfl⟩, ?_⟩
  unfold fetch
  simp only [hurl, hrequest, hsend]
  cases fetcher.transport.outcomes fetcher.transport.sent with
  | error reason => rfl
  | ok reply => rfl

theorem fetch_of_unsendable (hsent : ¬ fetcher.config.Sendable)
    (hurl : ∃ url, fetcher.query.requestUrl fetcher.config.baseUrl windowStart limit = .ok url) :
    fetcher.fetch windowStart limit = (.error (.unreachable unsendable), fetcher) := by
  obtain ⟨url, hurl⟩ := hurl
  unfold fetch
  simp only [hurl, Config.request?_eq_none hsent]

theorem fetch_of_brings
    (hurl : ∃ url, fetcher.query.requestUrl fetcher.config.baseUrl windowStart limit = .ok url)
    (hnext : fetcher.config.Sendable →
      fetcher.transport.outcomes fetcher.transport.sent = outcome)
    (h : fetcher.config.Brings outcome page) :
    ∃ after, PageFetcher.fetch fetcher windowStart limit = (.ok page, after) ∧
      fetcher.Asked after := by
  cases h with
  | page hsent hstatus hbody =>
    obtain ⟨after, hasked, hout⟩ := fetch_of_sendable hsent hurl
    refine ⟨after, hout.trans ?_, hasked⟩
    rw [hnext hsent]
    simp [pageOf, HttpReply.isSuccess, hstatus, hbody, Except.map]

theorem fetch_of_fails
    (hurl : ∃ url, fetcher.query.requestUrl fetcher.config.baseUrl windowStart limit = .ok url)
    (hnext : fetcher.config.Sendable →
      fetcher.transport.outcomes fetcher.transport.sent = outcome)
    (h : fetcher.config.Fails outcome e) :
    ∃ after, PageFetcher.fetch fetcher windowStart limit = (.error e, after) ∧
      fetcher.Asked after := by
  by_cases hsent : fetcher.config.Sendable
  · obtain ⟨after, hasked, hout⟩ := fetch_of_sendable hsent hurl
    refine ⟨after, hout.trans ?_, hasked⟩
    rw [hnext hsent]
    cases h with
    | unsendable hnot => exact absurd hsent hnot
    | unreachable => rfl
    | brokenOff => rfl
    | query _ hstatus => simp [pageOf, HttpReply.isSuccess, hstatus]
    | malformed _ hstatus hbody => simp [pageOf, HttpReply.isSuccess, hstatus, hbody, Except.map]
  · -- Nothing is sent, so whatever would have come does not count.
    have hout := fetch_of_unsendable hsent hurl
    cases h with
    | unsendable => exact ⟨_, hout, rfl, rfl, rfl, fun h => absurd h hsent⟩
    | unreachable h | brokenOff h | query h | malformed h => exact absurd h hsent

end Fetcher

/-- A source of the pages of a scope after some requests, of which none brought the end. -/
structure Standing (config : Config) (scope : RunScope) (outcomes : Nat → Except String HttpReply)
    (source : PagedSource (Fetcher ScriptedTransport)) (requests lines : Nat) : Prop where
  config_eq : source.fetcher.config = config
  query_eq : source.fetcher.query = config.query scope
  outcomes_eq : source.fetcher.transport.outcomes = outcomes
  sent : config.Sendable → source.fetcher.transport.sent = requests
  limits_eq : source.limits = config.limits
  issued : source.cursor.queriesIssued = requests
  emitted : source.cursor.linesEmitted = lines
  going : source.cursor.exhausted = false

namespace Standing

variable {config : Config} {scope : RunScope} {outcomes : Nat → Except String HttpReply}
  {source : PagedSource (Fetcher ScriptedTransport)} {requests lines : Nat} {page : Page}
  {pages : List Page} {e : RetrievalError}

theorem pageSource (config : Config) (scope : RunScope) (outcomes : Nat → Except String HttpReply) :
    Standing config scope outcomes (Retriever.pageSource ⟨config, ⟨outcomes, 0⟩⟩ scope) 0 0 :=
  ⟨rfl, rfl, rfl, fun _ => rfl, rfl, rfl, rfl, rfl⟩

variable (h : Standing config scope outcomes source requests lines) (hurl : config.Builds scope)
include h

theorem breaker?_eq_none (hqueries : requests < config.limits.maxQueries)
    (hlines : lines < config.limits.maxLines) : source.cursor.breaker? source.limits = none := by
  rw [Cursor.breaker?_eq_none_iff, h.limits_eq, h.issued, h.emitted]
  exact ⟨hlines, hqueries⟩

/-- The source stands one request later when its fetcher was asked once and the cursor says so. -/
theorem asked {fetcher : Fetcher ScriptedTransport} (hasked : source.fetcher.Asked fetcher)
    {cursor : Cursor} {lines' : Nat} (hissued : cursor.queriesIssued = source.cursor.queriesIssued + 1)
    (hemitted : cursor.linesEmitted = lines') (hgoing : cursor.exhausted = false) :
    Standing config scope outcomes { source with fetcher, cursor } (requests + 1) lines' where
  config_eq := hasked.config.trans h.config_eq
  query_eq := hasked.query.trans h.query_eq
  outcomes_eq := hasked.outcomes.trans h.outcomes_eq
  sent hsent := (hasked.sent (h.config_eq.symm ▸ hsent)).trans (congrArg (· + 1) (h.sent hsent))
  limits_eq := h.limits_eq
  issued := hissued.trans (congrArg (· + 1) h.issued)
  emitted := hemitted
  going := hgoing

include hurl

theorem exists_url (windowStart : LineId) : ∃ url, source.fetcher.query.requestUrl
    source.fetcher.config.baseUrl windowStart source.limits.pageSize = .ok url := by
  rw [h.query_eq, h.config_eq, h.limits_eq]
  exact hurl windowStart

omit hurl in
theorem next (hsent : source.fetcher.config.Sendable) :
    source.fetcher.transport.outcomes source.fetcher.transport.sent = outcomes requests := by
  rw [h.outcomes_eq, h.sent (h.config_eq ▸ hsent)]

/-- A request that fails is counted, and the source stands where it stood. -/
theorem fetchNext_of_fails (hqueries : requests < config.limits.maxQueries)
    (hlines : lines < config.limits.maxLines) (hfails : config.Fails (outcomes requests) e) :
    (PageSource.fetchNext source).1 = .error e ∧
      Standing config scope outcomes (PageSource.fetchNext source).2 (requests + 1) lines := by
  obtain ⟨after, hfetch, hasked⟩ := Fetcher.fetch_of_fails (h.exists_url hurl _) h.next
    (h.config_eq.symm ▸ hfails)
  have hout := PagedSource.fetchNext_of_failed h.going (h.breaker?_eq_none hqueries hlines) hfetch
  rw [PagedSource.fetchNext_paged, hout]
  exact ⟨rfl, h.asked hasked rfl h.emitted h.going⟩

/-- What comes of the request decides what the fetch gives. -/
theorem exists_fetch (windowStart : LineId) :
    (∃ page fetcher, config.Brings (outcomes requests) page ∧
      PageFetcher.fetch source.fetcher windowStart source.limits.pageSize = (.ok page, fetcher)) ∨
    ∃ e fetcher, config.Fails (outcomes requests) e ∧
      PageFetcher.fetch source.fetcher windowStart source.limits.pageSize = (.error e, fetcher) := by
  rcases config.brings_or_fails (outcomes requests) with ⟨page, hbrings⟩ | ⟨e, hfails⟩
  · obtain ⟨fetcher, hfetch, -⟩ := Fetcher.fetch_of_brings (h.exists_url hurl windowStart) h.next
      (h.config_eq.symm ▸ hbrings)
    exact .inl ⟨page, fetcher, hbrings, hfetch⟩
  · obtain ⟨fetcher, hfetch, -⟩ := Fetcher.fetch_of_fails (h.exists_url hurl windowStart) h.next
      (h.config_eq.symm ▸ hfails)
    exact .inr ⟨e, fetcher, hfails, hfetch⟩

theorem brings_of_fetch {fetcher : Fetcher ScriptedTransport} {windowStart : LineId}
    (hfetch : PageFetcher.fetch source.fetcher windowStart source.limits.pageSize =
      (.ok page, fetcher)) : config.Brings (outcomes requests) page := by
  rcases h.exists_fetch hurl windowStart with ⟨page', _, hbrings, hpage⟩ | ⟨e, _, -, herror⟩
  · obtain rfl := Except.ok.inj (Prod.mk.inj (hpage.symm.trans hfetch)).1
    exact hbrings
  · cases herror.symm.trans hfetch

theorem fails_of_fetch {fetcher : Fetcher ScriptedTransport} {windowStart : LineId}
    (hfetch : PageFetcher.fetch source.fetcher windowStart source.limits.pageSize =
      (.error e, fetcher)) : config.Fails (outcomes requests) e := by
  rcases h.exists_fetch hurl windowStart with ⟨page, _, -, hpage⟩ | ⟨e', _, hfails, herror⟩
  · cases hpage.symm.trans hfetch
  · obtain rfl := Except.error.inj (Prod.mk.inj (herror.symm.trans hfetch)).1
    exact hfails

omit hurl in
theorem bounds_of_breaker? (hnone : source.cursor.breaker? source.limits = none) :
    requests < config.limits.maxQueries ∧ lines < config.limits.maxLines := by
  rw [Cursor.breaker?_eq_none_iff, h.limits_eq, h.issued, h.emitted] at hnone
  exact hnone.symm

/-- A fetch gives an error only if the request is made and fails. -/
theorem failsFrom_of_fetchNext (herror : (PageSource.fetchNext source).1 = .error e) :
    config.FailsFrom outcomes requests lines [] e := by
  have hfetched := source.fetched
  rw [PagedSource.fetchNext_paged] at herror
  generalize source.fetchNext.1 = answer at hfetched herror
  generalize source.fetchNext.2 = after at hfetched
  cases hfetched with
  | ended | broken | loaded => exact nomatch herror
  | failed e' fetcher _ hnone hfetch =>
    obtain rfl := Except.error.inj herror
    obtain ⟨hqueries, hlines⟩ := h.bounds_of_breaker? hnone
    exact .now hqueries hlines (h.fails_of_fetch hurl hfetch)

/-- Only behind a page that is full and not cut another request may fail. -/
theorem full_of_drain (hgiven : (PageSource.fetchNext source).1 = .ok (.page page))
    (herror : (PageSource.drain (PageSource.fetchNext source).2).2.1 = .error e) :
    requests < config.limits.maxQueries ∧ lines < config.limits.maxLines ∧
      ∃ came, config.Brings (outcomes requests) came ∧
        config.limits.pageSize ≤ came.lines.length ∧
        lines + came.lines.length ≤ config.limits.maxLines := by
  have hfetched := source.fetched
  rw [PagedSource.fetchNext_paged] at hgiven herror
  generalize source.fetchNext.1 = answer at hfetched hgiven
  generalize source.fetchNext.2 = after at hfetched herror
  cases hfetched with
  | ended | broken | failed => exact nomatch hgiven
  | loaded came fetcher asked _ hnone hfetch ha =>
    obtain ⟨hqueries, hlines⟩ := h.bounds_of_breaker? hnone
    -- A page that is short or cut ends the source, and then no error can come.
    obtain ⟨hgoing, hroom⟩ := PagedSource.going_of_drain herror
    have hleft := (Cursor.breaker?_eq_none_iff.mp hroom).1
    have hmore : ¬ (came.lines.length < source.limits.pageSize ∧
        (asked.emitted source.limits came.lines).length = came.lines.length) :=
      decide_eq_false_iff_not.mp hgoing
    have hcount : (asked.emitted source.limits came.lines).length =
        min (config.limits.maxLines - lines) came.lines.length := by
      rw [Cursor.emitted, List.length_take, (Cursor.arrange_perm came.lines).length_eq, ha,
        h.limits_eq, h.emitted]
    rw [Cursor.absorb_linesEmitted, hcount, h.limits_eq, ha, h.emitted] at hleft
    rw [hcount, h.limits_eq] at hmore
    refine ⟨hqueries, hlines, came, h.brings_of_fetch hurl hfetch, ?_, ?_⟩
    · omega
    · omega

theorem fetchNext_of_brings (hqueries : requests < config.limits.maxQueries)
    (hlines : lines < config.limits.maxLines) (hbrings : config.Brings (outcomes requests) page)
    (hfull : config.limits.pageSize ≤ page.lines.length)
    (hroom : lines + page.lines.length ≤ config.limits.maxLines) :
    (PageSource.fetchNext source).1 = .ok (.page ⟨Cursor.arrange page.lines, page.status⟩) ∧
      Standing config scope outcomes (PageSource.fetchNext source).2 (requests + 1)
        (lines + page.lines.length) := by
  obtain ⟨after, hfetch, hasked⟩ := Fetcher.fetch_of_brings (h.exists_url hurl _) h.next
    (h.config_eq.symm ▸ hbrings)
  rw [← h.limits_eq] at hfull hroom
  rw [← h.emitted] at hroom
  obtain ⟨cursor, hout, hissued, hemitted, hgoing⟩ := PagedSource.fetchNext_of_full h.going
    (h.breaker?_eq_none hqueries hlines) hfetch hfull hroom
  rw [PagedSource.fetchNext_paged, hout]
  exact ⟨rfl, h.asked hasked hissued (hemitted.trans (by rw [h.emitted])) hgoing⟩

omit hurl in
theorem pageSize_pos : 1 ≤ source.limits.pageSize := by
  rw [h.limits_eq]
  exact Nat.le_max_right _ _

end Standing

/-- A page as it is given out. -/
def arranged (page : Page) : Page := ⟨Cursor.arrange page.lines, page.status⟩

/-- The source gives the pages and then fails, with one request for each. -/
theorem Config.FailsFrom.drain {config : Config} {scope : RunScope}
    {outcomes : Nat → Except String HttpReply} {requests lines : Nat} {pages : List Page}
    {e : RetrievalError} (h : config.FailsFrom outcomes requests lines pages e)
    (hurl : config.Builds scope) {source : PagedSource (Fetcher ScriptedTransport)}
    (hs : Standing config scope outcomes source requests lines) :
    (PageSource.drain source).1 = pages.map arranged ∧ (PageSource.drain source).2.1 = .error e ∧
      ∃ lines', Standing config scope outcomes (PageSource.drain source).2.2
        (requests + pages.length + 1) lines' := by
  -- By induction on the requests: each brings one page, up to the one that fails.
  induction h generalizing source with
  | now hqueries hlines hfails =>
    obtain ⟨herror, hafter⟩ := hs.fetchNext_of_fails hurl hqueries hlines hfails
    rw [PageSource.drain_of_end fun page hp => nomatch herror.symm.trans hp]
    exact ⟨rfl, herror, _, hafter⟩
  | @later requests lines page pages e hqueries hlines hbrings hfull hmore ih =>
    obtain ⟨hpage, hafter⟩ := hs.fetchNext_of_brings hurl hqueries hlines hbrings hfull
      (Nat.le_of_lt hmore.lines_lt)
    obtain ⟨hpages, herror, lines', hlast⟩ := ih hafter
    rw [PageSource.drain_of_page hpage]
    refine ⟨congrArg (arranged page :: ·) hpages, herror, lines', ?_⟩
    rw [List.length_cons, Nat.add_comm pages.length 1, ← Nat.add_assoc]
    exact hlast

/-- A source that is drained to an error is one of whose requests some bring pages and the next fails. -/
theorem Standing.failsFrom_of_drain {config : Config} {scope : RunScope}
    {outcomes : Nat → Except String HttpReply} {requests lines : Nat} {e : RetrievalError}
    (hurl : config.Builds scope) {source : PagedSource (Fetcher ScriptedTransport)}
    (h : Standing config scope outcomes source requests lines)
    (herror : (PageSource.drain source).2.1 = .error e) :
    ∃ pages, config.FailsFrom outcomes requests lines pages e := by
  cases hgiven : (PageSource.fetchNext source).1 with
  | error e' =>
    rw [PageSource.drain_of_end fun page hp => nomatch hgiven.symm.trans hp] at herror
    exact ⟨[], h.failsFrom_of_fetchNext hurl herror⟩
  | ok outcome =>
    cases outcome with
    | exhausted | circuitBroken =>
      rw [PageSource.drain_of_end fun page hp => nomatch hgiven.symm.trans hp] at herror
      exact nomatch hgiven.symm.trans herror
    | page page =>
      -- The rest of the source has fewer pages left, and it is drained to the same error.
      have hlt := PageSource.fetchesLeft_lt source page hgiven
      rw [PageSource.drain_of_page hgiven] at herror
      obtain ⟨hqueries, hlines, came, hbrings, hfull, hroom⟩ := h.full_of_drain hurl hgiven herror
      obtain ⟨-, hafter⟩ := h.fetchNext_of_brings hurl hqueries hlines hbrings hfull hroom
      obtain ⟨pages, hpages⟩ := failsFrom_of_drain hurl hafter herror
      exact ⟨came :: pages, .later hqueries hlines hbrings hfull hpages⟩
termination_by PageSource.fetchesLeft source

namespace Retriever

section Opening

variable {τ : Type} [HttpTransport τ] {retriever : Retriever τ} {scope : RunScope}
  {cursors : CursorCache}

theorem retrieve_fst (retriever : Retriever τ) (scope : RunScope) (cursors : CursorCache) :
    (retriever.retrieve scope cursors).1 =
      match Opening.ofSource (retriever.pageSource scope) retriever.config.streamOptions with
      | .opened log => .opened log
      | .refused e source => .refused (openingError e) source := rfl

/-- A log that opens is handed out as it is; only an error of the opening is told in another way. -/
theorem retrieve_eq_opened_iff {log : ViewerLog (PagedSource (Fetcher τ))} :
    (retriever.retrieve scope cursors).1 = .opened log ↔
      Opening.ofSource (retriever.pageSource scope) retriever.config.streamOptions = .opened log := by
  rw [retrieve_fst]
  cases Opening.ofSource (retriever.pageSource scope) retriever.config.streamOptions with
  | opened log' => rfl
  | refused e source => exact iff_of_false nofun nofun

theorem retrieve_of_refused {e : RetrievalError} {source : PagedSource (Fetcher τ)}
    (h : Opening.ofSource (retriever.pageSource scope) retriever.config.streamOptions =
      .refused e source) :
    (retriever.retrieve scope cursors).1 = .refused (openingError e) source := by
  rw [retrieve_fst, h]

/-- Opening a log takes a hold on its stream, and records nothing. -/
theorem snapshot_retrieve (retriever : Retriever τ) (scope : RunScope) (cursors : CursorCache) :
    (retriever.retrieve scope cursors).2.cache.snapshot = cursors.snapshot :=
  cursors.snapshot_hold scope.key

end Opening

/-- What is told of an error that ends the opening: refused credentials as such, anything else as it
is. -/
inductive Told : RetrievalError → RetrievalError → Prop where
  | refused {status : Nat} {body : String} (h : status = 401 ∨ status = 403) :
    Told (.query status body) (.authentication (RetrievalError.query status body).message)
  | asItIs {e : RetrievalError}
    (h : ∀ status body, e = .query status body → status ≠ 401 ∧ status ≠ 403) : Told e e

theorem told_openingError (e : RetrievalError) : Told e (openingError e) := by
  cases e with
  | query status body =>
    by_cases h : status = 401 ∨ status = 403
    · have hauth : HttpReply.isAuthStatus status = true := by
        simpa [HttpReply.isAuthStatus] using h
      rw [openingError, if_pos hauth]
      exact .refused h
    · have hauth : ¬ HttpReply.isAuthStatus status = true := by
        simpa [HttpReply.isAuthStatus] using h
      rw [openingError, if_neg hauth]
      refine .asItIs fun status' body' hsame => ?_
      obtain ⟨rfl, -⟩ := RetrievalError.query.inj hsame
      exact not_or.mp h
  | unreachable | authentication | malformed | closed => exact .asItIs fun _ _ h => nomatch h

/-- The source has issued so many queries, and as many requests have been sent if any can be. -/
def Requested (config : Config) (source : PagedSource (Fetcher ScriptedTransport)) (n : Nat) : Prop :=
  source.cursor.queriesIssued = n ∧ (config.Sendable → source.fetcher.transport.sent = n)

section Scripted

variable {config : Config} {scope : RunScope} {outcomes : Nat → Except String HttpReply}
  {source : PagedSource (Fetcher ScriptedTransport)} {requests lines : Nat}

theorem Requested.of_standing (h : Standing config scope outcomes source requests lines) :
    Requested config source requests :=
  ⟨h.issued, h.sent⟩

/-- The opening of a log is refused only for an error of its first request. -/
theorem exists_failsFrom_of_refused (hurl : config.Builds scope) (options : StreamOptions)
    (h : Standing config scope outcomes source requests lines) {told : RetrievalError}
    {last : PagedSource (Fetcher ScriptedTransport)}
    (hrefused : Opening.ofSource source options = .refused told last) :
    ∃ e, config.FailsFrom outcomes requests lines [] e := by
  cases hfetch : (PageSource.fetchNext source).1 with
  | error e => exact ⟨e, h.failsFrom_of_fetchNext hurl hfetch⟩
  | ok outcome =>
    -- A page that is given out has lines, so the log opens whatever came that is no error.
    obtain ⟨log, hlog⟩ := Opening.ofSource_of_ok options hfetch fun page hpage =>
      source.fetched.lines_ne_nil h.pageSize_pos (hfetch.trans (congrArg Except.ok hpage))
    exact nomatch hlog.symm.trans hrefused

/-- A log whose first page comes is opened with all that is to be delivered before the error. -/
theorem ofSource_of_failsFrom (hurl : config.Builds scope) (options : StreamOptions)
    (h : Standing config scope outcomes source requests lines) {page : Page} {pages : List Page}
    {e : RetrievalError} (hfails : config.FailsFrom outcomes requests lines (page :: pages) e) :
    ∃ log last, Opening.ofSource source options = .opened log ∧
      log.stream.Bound (render ((page :: pages).flatMap fun p => Cursor.arrange p.lines)) e last ∧
      Requested config last.source (requests + (page :: pages).length + 1) := by
  obtain ⟨hpages, herror, _, hlast⟩ := hfails.drain hurl h
  have hne : (arranged page).lines ≠ [] := by
    cases hfails with
    | later _ _ _ hfull =>
      rw [← h.limits_eq] at hfull
      apply List.ne_nil_of_length_pos
      change 0 < (Cursor.arrange page.lines).length
      rw [(Cursor.arrange_perm page.lines).length_eq]
      exact Nat.lt_of_lt_of_le h.pageSize_pos hfull
  obtain ⟨log, last, hlog, hbound, hsource⟩ := Opening.ofSource_of_failing options hpages hne herror
  refine ⟨log, last, hlog, ?_, ?_⟩
  · rw [← List.map_cons, List.flatMap_map] at hbound
    exact hbound
  · rw [hsource]
    exact .of_standing hlast

/-- Where a failure comes up, whatever comes of the requests. The log is refused exactly if the first
request is made and fails; then no other was made, and refused credentials are told as such, anything else
as it is. If the first page comes and a later request fails, the log is opened, all lines of the pages
before that request are delivered, and then the error of the request is reported as it is, once and
without another request; this error never names credentials. No other error comes up in a log that was
opened, and the snapshot of the cache stays as it was. -/
theorem retrieve_surfaces (config : Config) (scope : RunScope) (cursors : CursorCache)
    (outcomes : Nat → Except String HttpReply) (hurl : config.Builds scope) :
    let retrieved := retrieve ⟨config, ScriptedTransport.mk outcomes 0⟩ scope cursors
    retrieved.2.cache.snapshot = cursors.snapshot ∧
    ((∃ told source, retrieved.1 = .refused told source) ↔ ∃ e, config.FailsFrom outcomes 0 0 [] e) ∧
    (∀ e, config.FailsFrom outcomes 0 0 [] e →
      ∃ told source, retrieved.1 = .refused told source ∧ Told e told ∧ Requested config source 1) ∧
    (∀ log calls, retrieved.1 = .opened log → refusalsOf (log.stream.answerAll calls).1 ≠ [] →
      ∃ page pages e, config.FailsFrom outcomes 0 0 (page :: pages) e) ∧
    ∀ page pages e, config.FailsFrom outcomes 0 0 (page :: pages) e →
      (∀ reason, e ≠ .authentication reason) ∧
      ∃ log, retrieved.1 = .opened log ∧
        let bytes := render ((page :: pages).flatMap fun p => Cursor.arrange p.lines)
        (log.stream.collect none).1 = bytes ∧
        (log.stream.collect none).2.1 = some (.retrieval e) ∧
        ∀ calls : List ReaderCall,
          let run := log.stream.answerAll calls
          (bytesOf run.1 <+: bytes ∧ refusalsOf run.1 = [] ∧ ∀ n ≠ 0, (run.2.read n).1 ≠ .ok []) ∨
          (bytesOf run.1 = bytes ∧ (refusalsOf run.1).map TransferError.retrieval? = [some e] ∧
            Requested config run.2.lines.source (pages.length + 2)) := by
  intro retrieved
  have hs := Standing.pageSource config scope outcomes
  have hfirst (e : RetrievalError) (h : config.FailsFrom outcomes 0 0 [] e) :
      ∃ told source, retrieved.1 = .refused told source ∧ Told e told ∧ Requested config source 1 := by
    cases h with
    | now hqueries hlines hfails =>
      obtain ⟨herror, hafter⟩ := hs.fetchNext_of_fails hurl hqueries hlines hfails
      exact ⟨_, _, retrieve_of_refused (Opening.ofSource_of_error _ herror), told_openingError e,
        .of_standing hafter⟩
  refine ⟨snapshot_retrieve _ scope cursors, ⟨?_, ?_⟩, hfirst, ?_, ?_⟩
  · rintro ⟨told, source, hrefused⟩
    cases hopening : Opening.ofSource (pageSource ⟨config, ScriptedTransport.mk outcomes 0⟩ scope)
        config.streamOptions with
    | opened log => cases (retrieve_eq_opened_iff.mpr hopening).symm.trans hrefused
    | refused e last => exact exists_failsFrom_of_refused hurl _ hs hopening
  · rintro ⟨e, h⟩
    obtain ⟨told, source, hrefused, -⟩ := hfirst e h
    exact ⟨told, source, hrefused⟩
  · intro log calls hopened hrefusals
    obtain ⟨e, herror⟩ := Opening.failing_of_refusals (retrieve_eq_opened_iff.mp hopened) hrefusals
    obtain ⟨pages, h⟩ := hs.failsFrom_of_drain hurl herror
    cases pages with
    | cons page pages => exact ⟨page, pages, e, h⟩
    | nil =>
      obtain ⟨told, source, hrefused, -⟩ := hfirst e h
      cases hopened.symm.trans hrefused
  · intro page pages e h
    obtain ⟨log, last, hlog, hbound, hlast⟩ := ofSource_of_failsFrom hurl config.streamOptions hs h
    obtain ⟨hbytes, herror, -⟩ := hbound.collect
    refine ⟨h.fails.ne_authentication, log, retrieve_eq_opened_iff.mpr hlog, hbytes, herror, fun calls => ?_⟩
    rcases hbound.answerAll calls with ⟨more, hmore, hnone, hlater⟩ | ⟨hall, hone, hsettled⟩
    · refine .inl ⟨⟨more, hmore.symm⟩, hnone, fun n hn hend => ?_⟩
      -- A read that gives nothing would have to report the error.
      rcases hlater.read hn with ⟨-, hne⟩ | ⟨-, hsurfaces⟩
      · apply hne
        rw [ByteStream.answer, hend]
        rfl
      · have herror := hsurfaces.error
        rw [ByteStream.answer, hend] at herror
        cases herror
    · refine .inr ⟨hall, ?_, ?_⟩
      · rw [hone]
        rfl
      · rw [hsettled.lines]
        have hcount : 0 + (page :: pages).length + 1 = pages.length + 2 := by
          rw [List.length_cons]
          omega
        exact hcount ▸ hlast

end Scripted

section Expired

/-- Settings for a Loki behind a path of a gateway, with one line on a page. -/
def narrow : Config := { prefixed with pageSize := 1 }

set_option maxRecDepth 4000 in
theorem validate_narrow : narrow.validate = .ok () := by decide

theorem builds_narrow : narrow.Builds oneRun := by
  refine Config.builds_of_validate validate_narrow (fun c hc => ?_) oneRun
  obtain rfl := Option.some.inj (last_prefixed.symm.trans hc)
  decide

def firstLine : LogLine := ⟨⟨10⟩, "a"⟩

def secondLine : LogLine := ⟨⟨20⟩, "b"⟩

/-- A reply with one line. -/
def replyWith (line : LogLine) : HttpReply :=
  ⟨200, .ok (Text.encode (QueryResponse.documentOf [⟨[], nofun, [line]⟩]).toCompact)⟩

/-- Two pages come, and then the credentials are refused. -/
def expiring : Nat → Except String HttpReply
  | 0 => .ok (replyWith firstLine)
  | 1 => .ok (replyWith secondLine)
  | _ => .ok ⟨401, .ok (Text.encode "expired")⟩

theorem brings_replyWith (line : LogLine) : narrow.Brings (.ok (replyWith line)) ⟨[line], 200⟩ := by
  refine .page rfl rfl ?_
  let stream : QueryResponse.LabelledLines := ⟨[], nofun, [line]⟩
  have hparse : Json.parse? (QueryResponse.documentOf [stream]).toCompact.toList =
      some (QueryResponse.documentOf [stream]) := by
    rw [Json.toCompact, String.toList_ofList,
      (QueryResponse.written_documentOf [stream]).parse?_compact]
  rw [Text.decodeLossy_encode]
  exact QueryResponse.parseBody_documentOf hparse

theorem fails_expired : narrow.Fails (.ok ⟨401, .ok (Text.encode "expired")⟩) (.query 401 "expired") := by
  have hfails : narrow.Fails (.ok ⟨401, .ok (Text.encode "expired")⟩) _ := .query rfl (by decide)
  rwa [Text.decodeLossy_encode] at hfails

theorem failsFrom_expiring :
    narrow.FailsFrom expiring 0 0 [⟨[firstLine], 200⟩, ⟨[secondLine], 200⟩] (.query 401 "expired") :=
  .later (by decide) (by decide) (brings_replyWith firstLine) (by decide) <|
    .later (by decide) (by decide) (brings_replyWith secondLine) (by decide) <|
      .now (by decide) (by decide) fails_expired

/-- The same refusal comes up in the log when it is the third answer, and as one of the credentials when
it is the first. -/
theorem retrieve_surfaces_expiring :
    narrow.Builds oneRun ∧
    (∃ log, (retrieve ⟨narrow, ScriptedTransport.mk expiring 0⟩ oneRun .empty).1 = .opened log ∧
      (log.stream.collect none).1 = render [firstLine, secondLine] ∧
      (log.stream.collect none).2.1 = some (.retrieval (.query 401 "expired"))) ∧
    ∃ source,
      (retrieve ⟨narrow, ScriptedTransport.mk (fun n => expiring (n + 2)) 0⟩ oneRun .empty).1 =
        .refused (.authentication (RetrievalError.query 401 "expired").message) source := by
  have hone (line : LogLine) : Cursor.arrange [line] = [line] := List.mergeSort_singleton line
  refine ⟨builds_narrow, ?_, ?_⟩
  · obtain ⟨-, -, -, -, hlater⟩ := retrieve_surfaces narrow oneRun .empty expiring builds_narrow
    obtain ⟨-, log, hlog, hbytes, herror, -⟩ := hlater _ _ _ failsFrom_expiring
    refine ⟨log, hlog, ?_, herror⟩
    rw [hbytes]
    simp only [List.flatMap_cons, List.flatMap_nil, hone]
    rfl
  · obtain ⟨-, -, hfirst, -⟩ :=
      retrieve_surfaces narrow oneRun .empty (fun n => expiring (n + 2)) builds_narrow
    obtain ⟨told, source, hrefused, htold, -⟩ :=
      hfirst _ (.now (by decide) (by decide) fails_expired)
    cases htold with
    | refused => exact ⟨source, hrefused⟩
    | asItIs hnot => exact absurd rfl (hnot 401 "expired" rfl).1

end Expired

end Retriever

end Loki

end RunLog
