import RunLog.Proofs.Resuming

namespace RunLog

open LogBackend

/-- A call of a client that reads on. -/
inductive ReaderCall where
  | read (n : Nat)
  | available
deriving DecidableEq

/-- Why a client stopped reading: it had made the calls it wanted to make, a read with room for a byte
got none, or a call failed. -/
inductive RoundEnd where
  | stopped
  | atEnd
  | failed (error : TransferError)
deriving DecidableEq

namespace ByteStream

variable {σ : Type} [PageSupply σ]

/-- Makes calls until one fails or a read finds the end. -/
def perform (s : ByteStream σ) : List ReaderCall → List UInt8 × RoundEnd × ByteStream σ
  | [] => ([], .stopped, s)
  | .read n :: calls =>
    match s.read n with
    | (.error e, s) => ([], .failed e, s)
    | (.ok data, s) =>
      if n ≠ 0 ∧ data = [] then ([], .atEnd, s)
      else
        let others := perform s calls
        (data ++ others.1, others.2)
  | .available :: calls =>
    match s.available with
    | (.error e, s) => ([], .failed e, s)
    | (.ok _, s) => perform s calls

variable {s : ByteStream σ} {n : Nat} {calls : List ReaderCall}

theorem perform_read_of_error {e : TransferError} (h : (s.read n).1 = .error e) :
    s.perform (.read n :: calls) = ([], .failed e, (s.read n).2) := by
  rw [perform, show s.read n = (.error e, (s.read n).2) from Prod.ext h rfl]

theorem perform_read_of_end (h : (s.read n).1 = .ok []) (hn : n ≠ 0) :
    s.perform (.read n :: calls) = ([], .atEnd, (s.read n).2) := by
  rw [perform, show s.read n = (.ok [], (s.read n).2) from Prod.ext h rfl]
  exact if_pos ⟨hn, rfl⟩

theorem perform_read_of_data {data : List UInt8} (h : (s.read n).1 = .ok data)
    (hgo : ¬ (n ≠ 0 ∧ data = [])) :
    s.perform (.read n :: calls) =
      (data ++ ((s.read n).2.perform calls).1, ((s.read n).2.perform calls).2) := by
  rw [perform, show s.read n = (.ok data, (s.read n).2) from Prod.ext h rfl]
  exact if_neg hgo

theorem perform_available_of_error {e : TransferError} (h : s.available.1 = .error e) :
    s.perform (.available :: calls) = ([], .failed e, s.available.2) := by
  rw [perform, show s.available = (.error e, s.available.2) from Prod.ext h rfl]

theorem perform_available_of_ok {more : Bool} (h : s.available.1 = .ok more) :
    s.perform (.available :: calls) = s.available.2.perform calls := by
  rw [perform, show s.available = (.ok more, s.available.2) from Prod.ext h rfl]

/-- The stream after a call. -/
def after (s : ByteStream σ) : ReaderCall → ByteStream σ
  | .read n => (s.read n).2
  | .available => s.available.2

theorem isClosed_after (s : ByteStream σ) (call : ReaderCall) :
    (s.after call).lines.isClosed = s.lines.isClosed := by
  cases call with
  | read n => exact s.isClosed_read n
  | available => exact s.isClosed_available

/-- Calls end with the first one or with those that follow it. -/
theorem perform_cons (s : ByteStream σ) (call : ReaderCall) (calls : List ReaderCall) :
    (s.perform (call :: calls)).2.2 = s.after call ∨
      (s.perform (call :: calls)).2.2 = ((s.after call).perform calls).2.2 := by
  cases call with
  | read n =>
    cases hread : (s.read n).1 with
    | error e =>
      rw [perform_read_of_error hread]
      exact .inl rfl
    | ok data =>
      by_cases hend : n ≠ 0 ∧ data = []
      · obtain ⟨hn, rfl⟩ := hend
        rw [perform_read_of_end hread hn]
        exact .inl rfl
      · rw [perform_read_of_data hread hend]
        exact .inr rfl
  | available =>
    cases havail : s.available.1 with
    | error e =>
      rw [perform_available_of_error havail]
      exact .inl rfl
    | ok more =>
      rw [perform_available_of_ok havail]
      exact .inr rfl

variable {φ : Type} [PageFetcher φ]

theorem tripped_of_after {s : ByteStream (PagedSource φ)} (call : ReaderCall)
    (h : (s.after call).lines.source.cursor.tripped = none) :
    s.lines.source.cursor.tripped = none := by
  cases call with
  | read n => exact tripped_of_read h
  | available => exact tripped_of_available h

theorem tripped_of_perform {s : ByteStream (PagedSource φ)} (calls : List ReaderCall)
    (h : (s.perform calls).2.2.lines.source.cursor.tripped = none) :
    s.lines.source.cursor.tripped = none := by
  induction calls generalizing s with
  | nil => exact h
  | cons call calls ih =>
    -- Whatever follows the first call, the breaker was not tripped before.
    apply tripped_of_after call
    rcases s.perform_cons call calls with hlast | hlast
    · exact hlast ▸ h
    · exact ih (hlast ▸ h)

theorem tripped_after_of_perform {s : ByteStream (PagedSource φ)} {call : ReaderCall}
    (h : (s.perform (call :: calls)).2.2.lines.source.cursor.tripped = none) :
    (s.after call).lines.source.cursor.tripped = none := by
  rcases s.perform_cons call calls with hlast | hlast
  · exact hlast ▸ h
  · exact tripped_of_perform calls (hlast ▸ h)

variable [LogBackend φ] {sure : Prop} {stored log : List LogLine}

theorem roomy_perform {s : ByteStream (PagedSource φ)} (h : s.lines.source.Roomy stored)
    (calls : List ReaderCall) : (s.perform calls).2.2.lines.source.Roomy stored := by
  induction calls generalizing s with
  | nil => exact h
  | cons call calls ih =>
    have hafter : (s.after call).lines.source.Roomy stored := by
      cases call with
      | read n => exact roomy_read h n
      | available => exact roomy_available h
    rcases s.perform_cons call calls with hlast | hlast
    · rw [hlast]
      exact hafter
    · rw [hlast]
      exact ih hafter

/-- Whatever calls are made and whichever fails, a stream delivers the bytes that follow its place and
knows where it then is. -/
theorem Stands.perform {s : ByteStream (PagedSource φ)} {p : Place log}
    (h : s.Stands sure stored p) (hsize : (render log).length < UInt64.size)
    (hq : (s.perform calls).2.2.lines.source.cursor.tripped = none) :
    ∃ q : Place log, (s.perform calls).2.2.MarkedAt q ∧
      (s.perform calls).2.2.lines.isClosed = false ∧
      (s.perform calls).1 <+: (render log).drop p.offset ∧
      q.offset = p.offset + (s.perform calls).1.length ∧
      ((s.perform calls).2.1 = .atEnd → q.offset = (render log).length) := by
  -- By induction on the calls, while the stream stands; one that fails ends them.
  induction calls generalizing s p with
  | nil => exact ⟨p, h.marked, h.isOpen, List.nil_prefix, rfl, nofun⟩
  | cons call calls ih =>
    cases call with
    | read n =>
      have hopen := (s.isClosed_read n).trans h.isOpen
      have hquiet : (s.read n).2.lines.source.cursor.tripped = none := tripped_after_of_perform hq
      rcases h.read hsize n hquiet with ⟨q, data, hans, hafter, hoffset, hpre, hend⟩ | ⟨⟨e, he⟩, -, hm⟩
      · by_cases hstop : n ≠ 0 ∧ data = []
        · obtain ⟨hn, rfl⟩ := hstop
          rw [perform_read_of_end hans hn]
          refine ⟨q, hafter.marked, hopen, List.nil_prefix, hoffset, fun _ => ?_⟩
          rw [hoffset]
          exact p.offset_eq_length_iff.mpr ((hend hn).mp rfl)
        · rw [perform_read_of_data hans hstop] at hq ⊢
          obtain ⟨r, hmarked, hropen, hrest, hroffset, hrend⟩ := ih hafter hq
          refine ⟨r, hmarked, hropen, ?_, ?_, hrend⟩
          · exact prefix_drop_append hpre (hoffset ▸ hrest)
          · rw [hroffset, hoffset, List.length_append, Nat.add_assoc]
      · rw [perform_read_of_error he]
        exact ⟨p, hm, hopen, List.nil_prefix, rfl, nofun⟩
    | available =>
      have hopen := s.isClosed_available.trans h.isOpen
      have hquiet : s.available.2.lines.source.cursor.tripped = none := tripped_after_of_perform hq
      rcases h.available hquiet with ⟨hans, hafter, -⟩ | ⟨⟨e, he⟩, -, hm⟩
      · rw [perform_available_of_ok hans] at hq ⊢
        exact ih hafter hq
      · rw [perform_available_of_error he]
        exact ⟨p, hm, hopen, List.nil_prefix, rfl, nofun⟩

end ByteStream

/-- One attempt of a client: the backend and the limits that it meets, the way in which it opens the
log, and the calls that it means to make. -/
structure Round (φ : Type) where
  backend : φ
  limits : Limits
  mode : OpenMode
  calls : List ReaderCall

/-- What came of a round: the log did not open, or reading ended, perhaps with a breaker tripped. -/
inductive Report where
  | refused
  | done (ending : RoundEnd) (tripped : Option Breaker)
deriving DecidableEq

/-- No breaker has tripped in the round. -/
def Report.Quiet (report : Report) : Prop := ∀ ending breaker, report ≠ .done ending (some breaker)

/-- A client: all bytes that it received, and its cursor cache. -/
structure Client where
  received : List UInt8 := []
  cache : CursorCache

namespace Client

variable {φ : Type} [PageFetcher φ]

/-- A round: opens the log, skips as many bytes as were received, reads, and closes the stream. -/
def attempt (client : Client) (key : StreamKey) (start : LineId) (round : Round φ) :
    Report × Client :=
  let held := client.cache.hold key
  match round.mode.open? (PagedSource.start round.backend start round.limits) with
  | none => (.refused, { client with cache := held.2 })
  | some stream =>
    let view : CursorView := ⟨held.2, some held.1⟩
    let skipped := stream.skip view (UInt64.ofNat client.received.length)
    let read := match skipped.1 with
      | .ok _ => skipped.2.perform round.calls
      | .error e => ([], .failed e, skipped.2)
    let closed := read.2.2.close view
    (.done read.2.1 closed.1.lines.source.cursor.tripped,
      ⟨client.received ++ read.1, closed.2.cache⟩)

/-- Rounds one after another. -/
def attempts (client : Client) (key : StreamKey) (start : LineId) :
    List (Round φ) → List Report × Client
  | [] => ([], client)
  | round :: rounds =>
    let first := client.attempt key start round
    let others := attempts first.2 key start rounds
    (first.1 :: others.1, others.2)

/-- A round that is refused costs nothing: what was received and what was recorded stays. -/
theorem attempt_of_refused {client : Client} {key : StreamKey} {start : LineId} {round : Round φ}
    (h : (client.attempt key start round).1 = .refused) :
    (client.attempt key start round).2.received = client.received ∧
      ∀ key' offset, (client.attempt key start round).2.cache.get? key' offset =
        client.cache.get? key' offset := by
  unfold attempt at h ⊢
  split at h
  · exact ⟨rfl, fun key' offset => client.cache.get?_hold key key' offset⟩
  · exact nomatch h

/-- A client as it sees its cache during a round. -/
def view (client : Client) (key : StreamKey) : CursorView :=
  ⟨(client.cache.hold key).2, some (client.cache.hold key).1⟩

theorem attempt_of_skip {client : Client} {key : StreamKey} {start : LineId} {round : Round φ}
    {stream : ByteStream (PagedSource φ)} {n : UInt64}
    (hopen : round.mode.open? (PagedSource.start round.backend start round.limits) = some stream)
    (hskip : (stream.skip (client.view key) (UInt64.ofNat client.received.length)).1 = .ok n) :
    client.attempt key start round =
      let read := (stream.skip (client.view key)
        (UInt64.ofNat client.received.length)).2.perform round.calls
      (.done read.2.1 (read.2.2.close (client.view key)).1.lines.source.cursor.tripped,
        ⟨client.received ++ read.1, (read.2.2.close (client.view key)).2.cache⟩) := by
  rw [view] at hskip ⊢
  simp only [attempt, hopen, hskip]

theorem tripped_of_attempt {client : Client} {key : StreamKey} {start : LineId} {round : Round φ}
    {stream : ByteStream (PagedSource φ)}
    (hopen : round.mode.open? (PagedSource.start round.backend start round.limits) = some stream)
    (hquiet : (client.attempt key start round).1.Quiet) :
    stream.lines.source.cursor.tripped = none := by
  rw [← ByteStream.tripped_skip stream (client.view key) (UInt64.ofNat client.received.length)]
  simp only [Report.Quiet, attempt, hopen, ByteStream.tripped_close] at hquiet
  split at hquiet
  · apply ByteStream.tripped_of_perform round.calls
    apply Option.eq_none_iff_forall_ne_some.mpr
    intro breaker hb
    exact hquiet _ breaker (congrArg _ hb)
  · apply Option.eq_none_iff_forall_ne_some.mpr
    intro breaker hb
    exact hquiet _ breaker (congrArg _ hb)

/-- The invariant of a client: it received a first part of the log, and its cache knows where that
ends. -/
structure Sound (key : StreamKey) (log : List LogLine) (client : Client) : Prop where
  wellFormed : client.cache.WellFormed
  faithful : ∀ offset point, client.cache.get? key offset = some point → Faithful log offset point
  received : client.received <+: render log
  recorded : client.received ≠ [] →
    (client.cache.get? key (UInt64.ofNat client.received.length)).isSome

variable {log : List LogLine}

/-- A client that has read on from where it was, and closed its stream, knows where it is. -/
theorem sound_of_close {handle : Handle} {cache : CursorCache} (hserves : cache.Serves handle log)
    (hsize : (render log).length < UInt64.size) {received data : List UInt8} {p q : Place log}
    (hreceived : received <+: render log) (hp : p.offset = received.length)
    (hdata : data <+: (render log).drop p.offset) (hq : q.offset = p.offset + data.length)
    {last : ByteStream (PagedSource φ)} (hmarked : last.MarkedAt q)
    (hopen : last.lines.isClosed = false) :
    Sound handle.key log
      ⟨received ++ data, (last.close (⟨cache, some handle⟩ : CursorView)).2.cache⟩ := by
  -- The stream records the place that it reached, also where a call failed.
  obtain ⟨cache', hview, hserves', -, hnow, -, -⟩ := hmarked.close hopen hserves
  have hlen : q.offset = (received ++ data).length := by
    rw [hq, hp, List.length_append]
  have hprefix : received ++ data <+: render log := by
    obtain ⟨more, hmore⟩ := hreceived
    have hdrop : (render log).drop p.offset = more := by rw [hp, ← hmore, List.drop_left]
    rw [← hmore]
    exact (List.prefix_append_right_inj _).mpr (hdrop ▸ hdata)
  rw [hview]
  refine ⟨hserves'.wellFormed, hserves'.faithful, hprefix, ?_⟩
  intro hne
  have hoffset : UInt64.ofNat (received ++ data).length = last.bytesRead := by
    apply UInt64.toNat_inj.mp
    rw [hmarked.bytesRead, hlen]
    exact UInt64.toNat_ofNat_of_lt' (Nat.lt_of_le_of_lt hprefix.length_le hsize)
  change (cache'.get? handle.key (UInt64.ofNat (received ++ data).length)).isSome = true
  rw [hoffset]
  apply hnow
  rw [hlen]
  exact fun hzero => hne (List.length_eq_zero_iff.mp hzero)

variable [LogBackend φ] {key : StreamKey} {start : LineId} {lines : List LogLine} {client : Client}

theorem Sound.skip (h : client.Sound key log) (hsize : (render log).length < UInt64.size)
    {sure : Prop} {s : ByteStream (PagedSource φ)} (hs : s.Stands sure lines (.before [] log rfl))
    (hr : s.rest = []) {cache : CursorCache} {handle : Handle} (hserves : cache.Serves handle log)
    (hsame : ∀ o, cache.get? handle.key o = client.cache.get? key o) :
    ∃ p : Place log, p.offset = client.received.length ∧
      (s.skip (⟨cache, some handle⟩ : CursorView) (UInt64.ofNat client.received.length)).1 =
        .ok (UInt64.ofNat client.received.length) ∧
      (s.skip (⟨cache, some handle⟩ : CursorView)
        (UInt64.ofNat client.received.length)).2.Stands sure lines p := by
  -- The number of bytes received fits into an offset, and if it is not zero it is recorded.
  have hlen := h.received.length_le
  have hnat : (UInt64.ofNat client.received.length).toNat = client.received.length :=
    UInt64.toNat_ofNat_of_lt' (Nat.lt_of_le_of_lt hlen hsize)
  obtain ⟨p, hans, hstands, hoffset⟩ :=
    hs.skip hr rfl hsize hserves (UInt64.ofNat client.received.length)
  refine ⟨p, ?_, hans, hstands⟩
  rw [hoffset, hsame, hnat]
  by_cases hnil : client.received = []
  · rw [hnil]
    exact ite_self 0
  · exact if_pos (h.recorded hnil)

/-- Where the log does not open only a hold is taken. -/
theorem Sound.refused (h : client.Sound key log) :
    Sound key log { client with cache := (client.cache.hold key).2 } := by
  have hheld := CursorCache.serves_hold h.wellFormed h.faithful
  have hsame := client.cache.get?_hold key
  refine ⟨hheld.wellFormed, ?_, h.received, ?_⟩
  · intro offset point hp
    exact h.faithful offset point ((hsame key offset).symm.trans hp)
  · intro hne
    rw [hsame]
    exact h.recorded hne

/-- A round keeps a client sound, whatever fails in it, and one that comes to the end leaves the
client with the whole log. -/
theorem Sound.attempt (h : client.Sound key log) (hlog : IsLog lines)
    (hfrom : log = fromId start lines) (hsize : (render log).length < UInt64.size) {round : Round φ}
    (hstored : stored round.backend = lines) (hpage : 1 ≤ round.limits.pageSize)
    (hquiet : (client.attempt key start round).1.Quiet) :
    (client.attempt key start round).2.Sound key log ∧
      client.received <+: (client.attempt key start round).2.received ∧
      (∀ tripped, (client.attempt key start round).1 = .done .atEnd tripped →
        (client.attempt key start round).2.received = render log) := by
  have hheld := CursorCache.serves_hold h.wellFormed h.faithful
  have hkey := client.cache.key_hold key
  cases hopen : round.mode.open? (PagedSource.start round.backend start round.limits) with
  | none =>
    have hround : client.attempt key start round =
        (.refused, { client with cache := (client.cache.hold key).2 }) := by
      simp only [Client.attempt, hopen]
    rw [hround]
    exact ⟨h.refused, List.prefix_refl _, nofun⟩
  | some stream =>
    subst hstored
    -- The stream begins at the first byte and skips to where the client is, then reads on.
    obtain ⟨hstands, hrest⟩ := OpenMode.stands_of_open? hlog (False.elim) start hpage hopen
      (tripped_of_attempt hopen hquiet) hfrom
    have hknown : ∀ o, (client.cache.hold key).2.get? (client.cache.hold key).1.key o =
        client.cache.get? key o := by
      intro o
      rw [hkey, CursorCache.get?_hold]
    obtain ⟨p, hp, hskip, hlands⟩ := h.skip hsize hstands hrest hheld hknown
    have hround := attempt_of_skip hopen hskip
    simp only [ByteStream.tripped_close] at hround
    have hquietRead : ((stream.skip (client.view key)
        (UInt64.ofNat client.received.length)).2.perform
          round.calls).2.2.lines.source.cursor.tripped = none := by
      apply Option.eq_none_iff_forall_ne_some.mpr
      intro breaker hb
      exact hquiet _ breaker (by rw [hround, hb])
    obtain ⟨q, hmarked, hlast, hdata, hq, hend⟩ := hlands.perform hsize hquietRead
    have hsound := sound_of_close hheld hsize h.received hp hdata hq hmarked hlast
    rw [hkey] at hsound
    rw [hround]
    refine ⟨hsound, List.prefix_append _ _, ?_⟩
    intro tripped hdone
    have hall := hend (Report.done.inj hdone).1
    apply hsound.received.eq_of_length
    change (client.received ++ _).length = _
    rw [List.length_append, ← hall, hq, hp]

theorem quiet_attempt (client : Client) (key : StreamKey) {start : LineId} {round : Round φ}
    (h : (PagedSource.start round.backend start round.limits).Roomy lines) :
    (client.attempt key start round).1.Quiet := by
  unfold Client.attempt
  cases hopen : round.mode.open? (PagedSource.start round.backend start round.limits) with
  | none => exact nofun
  | some stream =>
    have hstream := OpenMode.roomy_of_open? h hopen
    have hskipped := ByteStream.roomy_skip hstream (client.view key)
      (UInt64.ofNat client.received.length)
    intro ending breaker hdone
    have htripped := (Report.done.inj hdone).2
    rw [ByteStream.tripped_close] at htripped
    split at htripped
    · exact nomatch (ByteStream.roomy_perform hskipped round.calls).tripped.symm.trans htripped
    · exact nomatch hskipped.tripped.symm.trans htripped

/-- Rounds keep a client sound, and what it has it never loses. -/
theorem Sound.attempts (h : client.Sound key log) (hlog : IsLog lines)
    (hfrom : log = fromId start lines) (hsize : (render log).length < UInt64.size)
    (rounds : List (Round φ)) (hstored : ∀ round ∈ rounds, stored round.backend = lines)
    (hpage : ∀ round ∈ rounds, 1 ≤ round.limits.pageSize)
    (hquiet : ∀ report ∈ (client.attempts key start rounds).1, report.Quiet) :
    (client.attempts key start rounds).2.Sound key log ∧
      client.received <+: (client.attempts key start rounds).2.received ∧
      (∀ tripped, .done .atEnd tripped ∈ (client.attempts key start rounds).1 →
        (client.attempts key start rounds).2.received = render log) := by
  induction rounds generalizing client with
  | nil => exact ⟨h, List.prefix_refl _, nofun⟩
  | cons round rounds ih =>
    rw [List.forall_mem_cons] at hstored hpage
    have hreports : (client.attempts key start (round :: rounds)).1 =
        (client.attempt key start round).1 ::
          ((client.attempt key start round).2.attempts key start rounds).1 := rfl
    rw [hreports, List.forall_mem_cons] at hquiet
    obtain ⟨hfirst, hgrows, hend⟩ := h.attempt hlog hfrom hsize hstored.1 hpage.1 hquiet.1
    obtain ⟨hlast, hgrows', hend'⟩ := ih hfirst hstored.2 hpage.2 hquiet.2
    refine ⟨hlast, hgrows.trans hgrows', ?_⟩
    intro tripped hmem
    rcases List.mem_cons.mp (hreports ▸ hmem) with hdone | hmem
    · -- The whole log was received already, and no more can come.
      apply hlast.received.eq_of_length_le
      rw [← hend tripped hdone.symm]
      exact hgrows'.length_le
    · exact hend' tripped hmem

/-- A client that retries loses and repeats nothing. Whatever queries fail in whatever rounds, the
bytes that it received are a first part of the log, and the whole log once a round came to the end;
a round in which the log did not open leaves all that was received and recorded as it was. -/
theorem received_prefix_render (key : StreamKey) (start : LineId) {lines : List LogLine}
    (hlog : IsLog lines) (hsize : (render (fromId start lines)).length < UInt64.size)
    (rounds : List (Round φ)) (hstored : ∀ round ∈ rounds, stored round.backend = lines)
    (hpage : ∀ round ∈ rounds, 1 ≤ round.limits.pageSize) {client : Client}
    (hcache : client.cache.WellFormed) (hunknown : ∀ offset, client.cache.get? key offset = none)
    (hnothing : client.received = [])
    (hquiet : ∀ report ∈ (client.attempts key start rounds).1, report.Quiet) :
    let reports := (client.attempts key start rounds).1
    let after := (client.attempts key start rounds).2
    after.received <+: render (fromId start lines) ∧
      (∀ tripped, .done .atEnd tripped ∈ reports → after.received = render (fromId start lines)) ∧
      ∀ round : Round φ, (after.attempt key start round).1 = .refused →
        (after.attempt key start round).2.received = after.received ∧
        ∀ key' offset, (after.attempt key start round).2.cache.get? key' offset =
          after.cache.get? key' offset := by
  intro reports after
  have hinit : client.Sound key (fromId start lines) := by
    refine ⟨hcache, ?_, ?_, ?_⟩
    · intro offset point hp
      exact nomatch (hunknown offset).symm.trans hp
    · rw [hnothing]
      exact List.nil_prefix
    · intro hne
      exact absurd hnothing hne
  obtain ⟨hsound, -, hend⟩ := hinit.attempts hlog rfl hsize rounds hstored hpage hquiet
  exact ⟨hsound.received, hend, fun round => attempt_of_refused⟩

theorem received_prefix_render_threeLines :
    let key : StreamKey := ⟨"build", 1, none⟩
    let backend : ObservedFetcher StoredLog := { inner := ⟨threeLines⟩ }
    let down : Round (ObservedFetcher StoredLog) :=
      ⟨{ backend with failures := [(1, .unreachable "down")] }, ⟨2, 9, 9⟩, .primed {}, [.read 100]⟩
    let up : Round (ObservedFetcher StoredLog) :=
      ⟨backend, ⟨2, 9, 9⟩, .plain false, [.read 3, .available, .read 100]⟩
    (Client.attempts ⟨[], .empty⟩ key .least [down, up, up]).2.received <+: render threeLines := by
  intro key backend down up
  have hdown : ∀ client : Client, (client.attempt key .least down).1 = .refused := by
    intro client
    have hrefused : down.mode.open? (PagedSource.start down.backend .least down.limits) = none := by
      change OpenMode.open? _ (.primed {}) = none
      rw [OpenMode.open?, Opening.ofSource, LineSequence.hasNext_of_opened rfl rfl]
      rfl
    simp only [Client.attempt, hrefused]
  have hlog : IsLog (stored up.backend) := isLog_threeLines
  have hroom : (PagedSource.start up.backend .least up.limits).Roomy (stored up.backend) :=
    PagedSource.roomy_start hlog ⟨rfl, trivial⟩ .least (by decide) (by decide) (by decide)
  have hquiet : ∀ report ∈ (Client.attempts ⟨[], .empty⟩ key .least [down, up, up]).1,
      report.Quiet := by
    intro report hmem
    rcases List.mem_cons.mp hmem with rfl | hmem
    · rw [hdown]
      intro ending breaker hdone
      cases hdone
    rcases List.mem_cons.mp hmem with rfl | hmem
    · exact quiet_attempt _ key hroom
    · obtain rfl := List.mem_singleton.mp hmem
      exact quiet_attempt _ key hroom
  exact (received_prefix_render key .least isLog_threeLines (by decide) [down, up, up]
    (by simp [down, up, backend, stored]) (by simp [down, up]) CursorCache.wellFormed_empty
    (fun _ => rfl) rfl hquiet).1

end Client

end RunLog
