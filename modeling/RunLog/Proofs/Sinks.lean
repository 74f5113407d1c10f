import Mathlib.Logic.Relation
import RunLog.Proofs.Reading
import RunLog.Sink.Limited
import RunLog.Stream.Collect
import RunLog.ViewerLog

namespace RunLog

namespace ByteSink

variable {κ : Type} [ByteSink κ] {sink later : κ}

/-- What one use makes of a sink. -/
inductive Use : κ → κ → Prop
  | write (sink : κ) (data : List UInt8) : Use sink (ByteSink.write sink data).2
  | flush (sink : κ) : Use sink (ByteSink.flush sink).2

/-- A sink that accepts everything, be it in small parts: neither a write nor a flush fails, now or
later. -/
structure Accepting (sink : κ) : Prop where
  write : ∀ later, Relation.ReflTransGen Use sink later → ∀ data, data ≠ [] →
    ∃ n, 0 < n ∧ n ≤ data.length ∧ (ByteSink.write later data).1 = .ok n
  flush : ∀ later, Relation.ReflTransGen Use sink later → (ByteSink.flush later).1 = .ok ()

theorem Accepting.of_uses (h : Accepting sink) (huses : Relation.ReflTransGen Use sink later) :
    Accepting later where
  write last hlast := h.write last (huses.trans hlast)
  flush last hlast := h.flush last (huses.trans hlast)

/-- Writing some data as a whole is nothing but writes. -/
theorem uses_writeAll (sink : κ) (data : List UInt8) :
    Relation.ReflTransGen Use sink (writeAll sink data).2 := by
  fun_induction writeAll sink data with
  | case1 sink => exact .refl
  | case2 sink byte bytes e next hwrite =>
    have huse := Use.write sink (byte :: bytes)
    rw [hwrite] at huse
    exact .single huse
  | case3 sink byte bytes next hwrite =>
    have huse := Use.write sink (byte :: bytes)
    rw [hwrite] at huse
    exact .single huse
  | case4 sink byte bytes n next hwrite ih =>
    have huse := Use.write sink (byte :: bytes)
    rw [hwrite] at huse
    exact .head huse ih

theorem Accepting.writeAll (h : Accepting sink) (data : List UInt8) :
    (writeAll sink data).1 = .ok () := by
  fun_induction ByteSink.writeAll sink data with
  | case1 sink => rfl
  | case2 sink byte bytes e next hwrite =>
    obtain ⟨n, -, -, hn⟩ := h.write sink .refl (byte :: bytes) (List.cons_ne_nil _ _)
    rw [hwrite] at hn
    exact nomatch hn
  | case3 sink byte bytes next hwrite =>
    obtain ⟨n, hpos, -, hn⟩ := h.write sink .refl (byte :: bytes) (List.cons_ne_nil _ _)
    rw [hwrite, Except.ok.injEq] at hn
    omega
  | case4 sink byte bytes n next hwrite ih =>
    have huse := Use.write sink (byte :: bytes)
    rw [hwrite] at huse
    exact ih (h.of_uses (.single huse))

/-- Writes the given data one after another, whatever comes of that. -/
def writeEach (sink : κ) (chunks : List (List UInt8)) : κ :=
  chunks.foldl (fun sink data => (writeAll sink data).2) sink

theorem uses_writeEach (sink : κ) (chunks : List (List UInt8)) :
    Relation.ReflTransGen Use sink (writeEach sink chunks) := by
  induction chunks generalizing sink with
  | nil => exact .refl
  | cons data chunks ih => exact (uses_writeAll sink data).trans (ih _)

end ByteSink

/-- A sink of any kind with a record of the bytes that it took. -/
structure RecordedSink (κ : Type) where
  inner : κ
  taken : List UInt8 := []

namespace RecordedSink

open ByteSink

variable {κ : Type} [ByteSink κ]

/-- Passes data on to the sink, and notes the bytes that it takes. -/
def write (sink : RecordedSink κ) (data : List UInt8) :
    Except TransferError Nat × RecordedSink κ :=
  match ByteSink.write sink.inner data with
  | (.error e, inner) => (.error e, { sink with inner })
  | (.ok n, inner) => (.ok n, ⟨inner, sink.taken ++ data.take n⟩)

instance : ByteSink (RecordedSink κ) where
  write := write
  flush sink :=
    let (result, inner) := ByteSink.flush sink.inner
    (result, { sink with inner })

theorem write_fst (sink : RecordedSink κ) (data : List UInt8) :
    (ByteSink.write sink data).1 = (ByteSink.write sink.inner data).1 := by
  change (sink.write data).1 = _
  unfold write
  split <;> next h => rw [h]

theorem write_inner (sink : RecordedSink κ) (data : List UInt8) :
    (ByteSink.write sink data).2.inner = (ByteSink.write sink.inner data).2 := by
  change (sink.write data).2.inner = _
  unfold write
  split <;> next h => rw [h]

theorem taken_write (sink : RecordedSink κ) (data : List UInt8) :
    (ByteSink.write sink data).2.taken =
      sink.taken ++ match (ByteSink.write sink data).1 with
        | .ok n => data.take n
        | .error _ => [] := by
  change (sink.write data).2.taken = _ ++ match (sink.write data).1 with
    | .ok n => data.take n
    | .error _ => []
  unfold write
  split
  · exact (List.append_nil _).symm
  · rfl

/-- A use of a sink under record is one of the sink itself. -/
theorem use_inner {sink later : RecordedSink κ} (h : Use sink later) :
    Use sink.inner later.inner := by
  cases h with
  | write data =>
    rw [write_inner]
    exact .write sink.inner data
  | flush => exact .flush sink.inner

/-- Taking a record does not keep a sink from accepting everything. -/
theorem accepting {inner : κ} (h : Accepting inner) (taken : List UInt8) :
    Accepting (⟨inner, taken⟩ : RecordedSink κ) := by
  have huses : ∀ later : RecordedSink κ, Relation.ReflTransGen Use ⟨inner, taken⟩ later →
      Relation.ReflTransGen Use inner later.inner :=
    fun later hlater => hlater.lift RecordedSink.inner fun _ _ => use_inner
  refine ⟨?_, ?_⟩
  · intro later hlater data hdata
    rw [write_fst]
    exact h.write later.inner (huses later hlater) data hdata
  · intro later hlater
    exact h.flush later.inner (huses later hlater)

/-- Of some data a sink takes a first part, and all of it unless the write fails. -/
theorem taken_writeAll (sink : RecordedSink κ) (data : List UInt8) :
    ∃ sent, sent <+: data ∧ (writeAll sink data).2.taken = sink.taken ++ sent ∧
      ((writeAll sink data).1 = .ok () → sent = data) := by
  fun_induction writeAll sink data with
  | case1 sink => exact ⟨[], List.nil_prefix, (List.append_nil _).symm, fun _ => rfl⟩
  | case2 sink byte bytes e next hwrite =>
    have htaken := taken_write sink (byte :: bytes)
    rw [hwrite] at htaken
    exact ⟨[], List.nil_prefix, htaken, nofun⟩
  | case3 sink byte bytes next hwrite =>
    have htaken := taken_write sink (byte :: bytes)
    rw [hwrite] at htaken
    exact ⟨[], List.nil_prefix, htaken, nofun⟩
  | case4 sink byte bytes n next hwrite ih =>
    have htaken := taken_write sink (byte :: bytes)
    rw [hwrite] at htaken
    change next.taken = sink.taken ++ byte :: bytes.take n at htaken
    obtain ⟨sent, hprefix, hmore, hall⟩ := ih
    have hsplit : byte :: bytes = (byte :: bytes.take n) ++ bytes.drop n := by
      rw [List.cons_append, List.take_append_drop]
    refine ⟨byte :: bytes.take n ++ sent, ?_, ?_, ?_⟩
    · rw [hsplit]
      exact (List.prefix_append_right_inj _).mpr hprefix
    · rw [hmore, htaken, List.append_assoc]
    · intro hok
      rw [hall hok, ← hsplit]

theorem taken_writeEach {sink : RecordedSink κ} (h : Accepting sink) (chunks : List (List UInt8)) :
    (writeEach sink chunks).taken = sink.taken ++ chunks.flatten := by
  induction chunks generalizing sink with
  | nil => exact (List.append_nil _).symm
  | cons data chunks ih =>
    obtain ⟨sent, -, htaken, hall⟩ := sink.taken_writeAll data
    have hsent := hall (h.writeAll data)
    have hmore := ih (h.of_uses (uses_writeAll sink data))
    change (writeEach (writeAll sink data).2 chunks).taken = _
    rw [hmore, htaken, hsent, List.flatten_cons, List.append_assoc]

end RecordedSink

namespace LimitedSink

theorem flush_of_steady {sink : LimitedSink} (h : sink.failFlush = false) :
    ByteSink.flush sink = (.ok (), { sink with flushes := sink.flushes + 1 }) := by
  have hsteady : ¬ sink.failFlush = true := by simp [h]
  exact if_neg hsteady

/-- A sink without a bound in all that takes some bytes at a time and can be flushed accepts
everything. -/
theorem accepting {sink : LimitedSink} (hcapacity : sink.capacity = none) {size : Nat}
    (hchunk : sink.chunk = some (size + 1)) (hflush : sink.failFlush = false) :
    ByteSink.Accepting sink := by
  -- No use changes the bounds.
  have hbounds : ∀ later, Relation.ReflTransGen ByteSink.Use sink later →
      later.capacity = none ∧ later.chunk = some (size + 1) ∧ later.failFlush = false := by
    intro later hlater
    induction hlater with
    | refl => exact ⟨hcapacity, hchunk, hflush⟩
    | tail _ huse ih =>
      cases huse with
      | write data => exact ih
      | flush =>
        rw [flush_of_steady ih.2.2]
        exact ih
  refine ⟨?_, ?_⟩
  · intro later hlater data hdata
    obtain ⟨hcapacity, hchunk, -⟩ := hbounds later hlater
    have hpos := List.length_pos_iff.mpr hdata
    refine ⟨later.accepted data.length, ?_, ?_, rfl⟩
    · simp only [accepted, hcapacity, hchunk, Option.map_none, Option.getD_none, Option.getD_some]
      omega
    · simp only [accepted]
      omega
  · intro later hlater
    rw [flush_of_steady (hbounds later hlater).2.2]

end LimitedSink

namespace ByteStream

open ByteSink

variable {σ : Type} [PageSource σ] {κ : Type} [ByteSink κ]

/-- The outcome of a transfer that an error ended, or none. -/
def outcomeOf : Option TransferError → Except TransferError Unit
  | none => .ok ()
  | some e => .error e

/-- Reading a stream to its end is a read of one chunk, and if that brings bytes, reading on. -/
theorem collect_eq (s : ByteStream σ) :
    s.collect none = match (s.read chunkSize).1 with
      | .error e => ([], some e, (s.read chunkSize).2)
      | .ok [] => ([], none, (s.read chunkSize).2)
      | .ok (byte :: bytes) => (byte :: bytes ++ ((s.read chunkSize).2.collect none).1,
          ((s.read chunkSize).2.collect none).2) := by
  rw [collect, if_neg (by simp)]
  dsimp only [Option.getD_none, Option.map_none]
  split <;> next h => simp only [h]

/-- A copy into a sink that accepts everything ends as a reading of the stream to its end does, and
writes what that brings. -/
theorem copy_of_accepting (s : ByteStream σ) {sink : κ} (h : Accepting sink) :
    ∃ chunks : List (List UInt8), chunks.flatten = (s.collect none).1 ∧
      s.copy sink =
        (outcomeOf (s.collect none).2.1, (s.collect none).2.2, writeEach sink chunks) := by
  fun_induction copy s sink with
  | case1 s sink step e he =>
    rw [collect_eq, he]
    exact ⟨[], rfl, rfl⟩
  | case2 s sink step hend =>
    rw [collect_eq, hend]
    exact ⟨[], rfl, rfl⟩
  | case3 s sink step byte bytes hdata e next hwrite =>
    -- A sink that accepts everything does not fail.
    have hok := h.writeAll (byte :: bytes)
    rw [hwrite] at hok
    exact nomatch hok
  | case4 s sink step byte bytes hdata next hwrite ih =>
    have huses := uses_writeAll sink (byte :: bytes)
    rw [hwrite] at huses
    obtain ⟨chunks, hflat, hcopy⟩ := ih (h.of_uses huses)
    rw [hcopy, collect_eq s, hdata]
    refine ⟨(byte :: bytes) :: chunks, ?_, ?_⟩
    · rw [List.flatten_cons, hflat]
    · have hfirst : writeEach sink ((byte :: bytes) :: chunks) = writeEach next chunks := by
        change writeEach (writeAll sink (byte :: bytes)).2 chunks = _
        rw [hwrite]
      rw [hfirst]

end ByteStream

namespace ViewerLog

open ByteSink

variable {σ : Type} [PageSource σ] {μ : Type} [OffsetMapper μ] {κ : Type} [ByteSink κ]

/-- What a copy from an offset on comes to if no write fails: the bytes that are written, the answer,
and the stream behind it. -/
def copyOutcome (log : ViewerLog σ) (cursors : μ) (offset : UInt64) :
    List UInt8 × Except TransferError UInt64 × ByteStream σ :=
  match if 0 < offset then log.stream.skip cursors offset else (.ok 0, log.stream) with
  | (.error e, stream) => ([], .error e, stream)
  | (.ok _, stream) => match stream.collect none with
    | (bytes, some e, stream) => (bytes, .error e, stream)
    | (bytes, none, stream) => (bytes, .ok stream.bytesRead, stream)

/-- Whatever accepts everything gets the same bytes, and the same is answered. -/
theorem writeTo_of_accepting (log : ViewerLog σ) (cursors : μ) (offset : UInt64) {sink : κ}
    (h : Accepting sink) :
    ∃ chunks : List (List UInt8), chunks.flatten = (log.copyOutcome cursors offset).1 ∧
      (log.writeTo cursors offset sink).1 = (log.copyOutcome cursors offset).2.1 ∧
      (log.writeTo cursors offset sink).2.1 =
        { log with stream := (log.copyOutcome cursors offset).2.2 } ∧
      ((log.writeTo cursors offset sink).2.2 = writeEach sink chunks ∨
        (log.writeTo cursors offset sink).2.2 = (flush (writeEach sink chunks)).2) := by
  rw [writeTo, copyOutcome]
  generalize (if 0 < offset then log.stream.skip cursors offset else (.ok 0, log.stream)) = begun
  obtain ⟨e | n, stream⟩ := begun
  · exact ⟨[], rfl, rfl, rfl, .inl rfl⟩
  · obtain ⟨chunks, hflat, hcopy⟩ := stream.copy_of_accepting h
    have hflush := h.flush _ (uses_writeEach sink chunks)
    refine ⟨chunks, ?_⟩
    dsimp only
    rw [hcopy]
    generalize stream.collect none = collected at hflat
    obtain ⟨bytes, failure, last⟩ := collected
    cases failure with
    | some e => exact ⟨hflat, rfl, rfl, .inl rfl⟩
    | none =>
      dsimp only [ByteStream.outcomeOf]
      generalize flush (writeEach sink chunks) = flushed at hflush
      obtain ⟨result, after⟩ := flushed
      obtain rfl : result = .ok () := hflush
      exact ⟨hflat, rfl, rfl, .inr rfl⟩

/-- A sink that accepts everything has taken the bytes of the copy. -/
theorem taken_writeTo (log : ViewerLog σ) (cursors : μ) (offset : UInt64) {sink : κ}
    (h : Accepting sink) :
    (log.writeTo cursors offset (⟨sink, []⟩ : RecordedSink κ)).2.2.taken =
      (log.copyOutcome cursors offset).1 := by
  have hrecorded := RecordedSink.accepting h []
  obtain ⟨chunks, hflat, -, -, hsink⟩ := log.writeTo_of_accepting cursors offset hrecorded
  have htaken := RecordedSink.taken_writeEach hrecorded chunks
  rw [hflat, List.nil_append] at htaken
  rw [← htaken]
  rcases hsink with hsink | hsink
  · rw [hsink]
  · -- A flush takes nothing more.
    rw [hsink]
    rfl

end ViewerLog

end RunLog
