import RunLog.Proofs.Decoding
import RunLog.Proofs.Sinks
import RunLog.Sink.Filtered
import RunLog.Source.Scripted

namespace RunLog

namespace FilteredSink

/-- The lines of some bytes, each with the newline that ends it; the last one may have none. -/
def splitLines : List UInt8 → List (List UInt8)
  | [] => []
  | byte :: bytes =>
    if byte = newline then [byte] :: splitLines bytes
    else match splitLines bytes with
      | [] => [[byte]]
      | line :: lines => (byte :: line) :: lines

example : splitLines [97, 10, 10, 98] = [[97, 10], [10], [98]] := by decide

/-- The bytes of the lines whose texts are kept. -/
def chosen (keep : String → Bool) (bytes : List UInt8) : List UInt8 :=
  ((splitLines bytes).filter fun line =>
    keep (Text.decodeLossy (line.takeWhile (· ≠ newline)))).flatten

/-- The bytes of a line that is kept, or none. -/
def passed (keep : String → Bool) (text line : List UInt8) : List UInt8 :=
  if keep (Text.decodeLossy text) then line else []

section Lines

variable {keep : String → Bool} {front : List UInt8}

theorem splitLines_append (h : newline ∉ front) (rest : List UInt8) :
    splitLines (front ++ newline :: rest) = (front ++ [newline]) :: splitLines rest := by
  induction front with
  | nil => exact if_pos rfl
  | cons byte front ih =>
    obtain ⟨hbyte, hfront⟩ := not_or.mp (mt List.mem_cons.mpr h)
    rw [List.cons_append, splitLines, if_neg (Ne.symm hbyte), ih hfront]
    rfl

theorem splitLines_of_unended (h : newline ∉ front) (hne : front ≠ []) :
    splitLines front = [front] := by
  induction front with
  | nil => exact absurd rfl hne
  | cons byte front ih =>
    obtain ⟨hbyte, hfront⟩ := not_or.mp (mt List.mem_cons.mpr h)
    rw [splitLines, if_neg (Ne.symm hbyte)]
    by_cases hlast : front = []
    · rw [hlast]
      rfl
    · rw [ih hfront hlast]

theorem takeWhile_append (h : newline ∉ front) (rest : List UInt8) :
    (front ++ rest).takeWhile (· ≠ newline) = front ++ rest.takeWhile (· ≠ newline) := by
  refine List.takeWhile_append_of_pos fun byte hmem => ?_
  simpa using fun heq : byte = newline => h (heq ▸ hmem)

theorem newline_not_mem_takeWhile (data : List UInt8) :
    newline ∉ data.takeWhile (· ≠ newline) := by
  intro hmem
  simpa using List.all_eq_true.mp List.all_takeWhile newline hmem

/-- Some data from its first newline on. -/
theorem eq_append_of_dropWhile {data rest : List UInt8} {last : UInt8}
    (h : data.dropWhile (· ≠ newline) = last :: rest) :
    last = newline ∧ data = data.takeWhile (· ≠ newline) ++ [newline] ++ rest := by
  have hhead := List.head?_dropWhile_not (· ≠ newline) data
  have hwhole := List.takeWhile_append_dropWhile (p := (· ≠ newline)) (l := data)
  rw [h] at hhead hwhole
  obtain rfl : last = newline := by simpa using hhead
  exact ⟨rfl, by rw [List.append_assoc]; exact hwhole.symm⟩

theorem chosen_append (h : newline ∉ front) (rest : List UInt8) :
    chosen keep (front ++ newline :: rest) =
      passed keep front (front ++ [newline]) ++ chosen keep rest := by
  have htext : (front ++ [newline]).takeWhile (· ≠ newline) = front := by
    rw [takeWhile_append h]
    exact List.append_nil front
  rw [chosen, splitLines_append h, List.filter_cons, htext, passed]
  split <;> rfl

theorem chosen_of_unended (h : newline ∉ front) : chosen keep front = passed keep front front := by
  by_cases hne : front = []
  · rw [hne, passed, ite_self]
    rfl
  · have htext : front.takeWhile (· ≠ newline) = front := by
      have hsame := takeWhile_append h []
      rwa [List.append_nil, List.takeWhile_nil, List.append_nil] at hsame
    rw [chosen, splitLines_of_unended h hne, List.filter_cons, htext, passed]
    split
    · exact List.append_nil front
    · rfl

end Lines

open ByteSink

section Uses

variable {κ : Type} [ByteSink κ] {sink : FilteredSink κ}

theorem write_of_none (h : sink.keeps = none) (data : List UInt8) :
    ByteSink.write sink data = ((ByteSink.write sink.inner data).1,
      { sink with inner := (ByteSink.write sink.inner data).2 }) := by
  change write sink data = _
  rw [write, h]

/-- With a test a write takes all of the data, or it fails. -/
theorem write_of_some {keep : String → Bool} (h : sink.keeps = some keep) (data : List UInt8) :
    ByteSink.write sink data =
      ((sink.writeLines data).1.map fun () => data.length, (sink.writeLines data).2) := by
  change write sink data = _
  rw [write, h]

theorem emit_nil (sink : FilteredSink κ) : sink.emit [] = (.ok (), sink) := by
  rw [emit, writeAll]
  exact ite_self _

/-- A flush passes on what was held back, which may be nothing, before it goes on to the sink. -/
theorem flush_eq (sink : FilteredSink κ) :
    ByteSink.flush sink = match { sink with pending := [] }.emit sink.pending with
      | (.error e, sink) => (.error e, sink)
      | (.ok (), sink) =>
        ((ByteSink.flush sink.inner).1, { sink with inner := (ByteSink.flush sink.inner).2 }) := by
  change flush sink = _
  unfold flush
  cases hp : sink.pending with
  | nil =>
    have hsame : { sink with pending := [] } = sink := by rw [← hp]
    rw [emit_nil, hsame]
    rfl
  | cons byte bytes =>
    rw [if_neg (by simp)]
    generalize { sink with pending := [] }.emit (byte :: bytes) = emitted
    obtain ⟨e | _, after⟩ := emitted <;> rfl

/-- A line is passed on by writes into the sink behind the filter. -/
theorem uses_emit (sink : FilteredSink κ) (line : List UInt8) :
    Relation.ReflTransGen Use sink.inner (sink.emit line).2.inner := by
  unfold emit
  split
  · exact uses_writeAll sink.inner line
  · exact .refl

theorem uses_writeLines (sink : FilteredSink κ) (data : List UInt8) :
    Relation.ReflTransGen Use sink.inner (sink.writeLines data).2.inner := by
  fun_induction writeLines sink data with
  | case1 => exact .refl
  | case2 sink data begun last rest _ e after hemit =>
    have huses := uses_emit { sink with pending := [] } (begun ++ [last])
    rw [hemit] at huses
    exact huses
  | case3 sink data begun last rest _ after hemit ih =>
    have huses := uses_emit { sink with pending := [] } (begun ++ [last])
    rw [hemit] at huses
    exact huses.trans ih

theorem uses_write (sink : FilteredSink κ) (data : List UInt8) :
    Relation.ReflTransGen Use sink.inner (ByteSink.write sink data).2.inner := by
  cases hk : sink.keeps with
  | none =>
    rw [write_of_none hk]
    exact .single (.write sink.inner data)
  | some keep =>
    rw [write_of_some hk]
    exact uses_writeLines sink data

theorem uses_flush (sink : FilteredSink κ) :
    Relation.ReflTransGen Use sink.inner (ByteSink.flush sink).2.inner := by
  have huses := uses_emit { sink with pending := [] } sink.pending
  rw [flush_eq]
  split
  · next hemit =>
    rw [hemit] at huses
    exact huses
  · next after hemit =>
    rw [hemit] at huses
    exact huses.tail (.flush after.inner)

/-- A use of a filter comes to uses of the sink behind it. -/
theorem uses_of_use {later : FilteredSink κ} (h : Use sink later) :
    Relation.ReflTransGen Use sink.inner later.inner := by
  cases h with
  | write data => exact uses_write sink data
  | flush => exact uses_flush sink

end Uses

section Accepting

variable {κ : Type} [ByteSink κ] {sink : FilteredSink κ}

theorem emit_of_accepting (sink : FilteredSink κ) (h : Accepting sink.inner) (line : List UInt8) :
    (sink.emit line).1 = .ok () := by
  unfold emit
  split
  · exact h.writeAll line
  · rfl

theorem writeLines_of_accepting (h : Accepting sink.inner) (data : List UInt8) :
    (sink.writeLines data).1 = .ok () := by
  fun_induction writeLines sink data with
  | case1 => rfl
  | case2 sink data begun last rest _ e after hemit =>
    have hok := emit_of_accepting { sink with pending := [] } h (begun ++ [last])
    rw [hemit] at hok
    exact nomatch hok
  | case3 sink data begun last rest _ after hemit ih =>
    have huses := uses_emit { sink with pending := [] } (begun ++ [last])
    rw [hemit] at huses
    exact ih (h.of_uses huses)

theorem flush_of_accepting (h : Accepting sink.inner) : (ByteSink.flush sink).1 = .ok () := by
  have hok := emit_of_accepting { sink with pending := [] } h sink.pending
  have huses := uses_emit { sink with pending := [] } sink.pending
  rw [flush_eq]
  split
  · next hemit =>
    rw [hemit] at hok
    simp at hok
  · next after hemit =>
    rw [hemit] at huses
    exact h.flush after.inner huses

/-- A filter before a sink that accepts everything accepts everything. -/
theorem accepting (sink : FilteredSink κ) (h : Accepting sink.inner) : Accepting sink := by
  -- However the filter is used, the sink behind it is only used, so it goes on accepting.
  have huses : ∀ later, Relation.ReflTransGen Use sink later →
      Relation.ReflTransGen Use sink.inner later.inner :=
    fun later hlater => hlater.lift' FilteredSink.inner fun _ _ => uses_of_use
  refine ⟨fun later hlater data hdata => ?_, fun later hlater => ?_⟩
  · have hinner := h.of_uses (huses later hlater)
    cases hk : later.keeps with
    | none =>
      rw [write_of_none hk]
      exact hinner.write later.inner .refl data hdata
    | some keep =>
      rw [write_of_some hk, writeLines_of_accepting hinner]
      exact ⟨data.length, List.length_pos_iff.mpr hdata, Nat.le_refl _, rfl⟩
  · exact flush_of_accepting (h.of_uses (huses later hlater))

end Accepting

section Choosing

variable {κ : Type} {keep : String → Bool} {bytes : List UInt8}
  {sink : FilteredSink (RecordedSink κ)}

/-- Of the bytes so far all lines that are kept were passed on, and what is held back begins the next
line. -/
structure Passes (keep : String → Bool) (bytes : List UInt8)
    (sink : FilteredSink (RecordedSink κ)) : Prop where
  keeps : sink.keeps = some keep
  unended : newline ∉ sink.pending
  taken : ∀ more, chosen keep (bytes ++ more) =
    sink.inner.taken ++ chosen keep (sink.pending ++ more)

/-- A line could not be passed on as a whole; it is not held back, either. -/
structure Broken (keep : String → Bool) (bytes : List UInt8)
    (sink : FilteredSink (RecordedSink κ)) : Prop where
  pending : sink.pending = []
  taken : ∀ more, sink.inner.taken <+: chosen keep (bytes ++ more)

/-- What became of the bytes so far, according to the answer. -/
def Outcome (keep : String → Bool) (bytes : List UInt8) {α : Type} :
    Except TransferError α × FilteredSink (RecordedSink κ) → Prop
  | (.ok _, sink) => Passes keep bytes sink
  | (.error _, sink) => Broken keep bytes sink

theorem Outcome.passes {α : Type} {a : α}
    {written : Except TransferError α × FilteredSink (RecordedSink κ)}
    (h : Outcome keep bytes written) (hok : written.1 = .ok a) : Passes keep bytes written.2 := by
  obtain ⟨e | _, sink⟩ := written
  · exact nomatch hok
  · exact h

theorem Broken.append (h : Broken keep bytes sink) (more : List UInt8) :
    Broken keep (bytes ++ more) sink where
  pending := h.pending
  taken rest := by
    rw [List.append_assoc]
    exact h.taken (more ++ rest)

variable [ByteSink κ]

/-- Of a line that is kept the sink takes a first part, and all of it unless it fails. -/
theorem taken_emit (sink : FilteredSink (RecordedSink κ)) (hk : sink.keeps = some keep)
    {text line : List UInt8} (htext : lineText line = Text.decodeLossy text) :
    (sink.emit line).2.keeps = sink.keeps ∧ (sink.emit line).2.pending = sink.pending ∧
      ∃ sent, sent <+: passed keep text line ∧
        (sink.emit line).2.inner.taken = sink.inner.taken ++ sent ∧
        ((sink.emit line).1 = .ok () → sent = passed keep text line) := by
  have htest : sink.keeps.all (fun keeps => keeps (lineText line)) =
      keep (Text.decodeLossy text) := by
    rw [hk, ← htext]
    rfl
  rw [emit, htest, passed]
  split
  · exact ⟨rfl, rfl, sink.inner.taken_writeAll line⟩
  · exact ⟨rfl, rfl, [], List.nil_prefix, (List.append_nil _).symm, fun _ => rfl⟩

/-- A line that ends is passed on together with what was held back of it. -/
theorem Passes.emit (h : Passes keep bytes sink) {front : List UInt8} (hfront : newline ∉ front) :
    Outcome keep (bytes ++ (front ++ [newline]))
      ({ sink with pending := [] }.emit (sink.pending ++ front ++ [newline])) := by
  -- What was held back and the front of the data are one line, of which only the end is a newline.
  have hline : newline ∉ sink.pending ++ front :=
    fun hmem => (List.mem_append.mp hmem).elim h.unended hfront
  have htext : lineText (sink.pending ++ front ++ [newline]) =
      Text.decodeLossy (sink.pending ++ front) := (Text.dropEnd_decodeLossy hline).2
  obtain ⟨hkeeps, hpending, sent, hsent, htaken, hall⟩ :=
    taken_emit { sink with pending := [] } h.keeps htext
  have hchosen (more : List UInt8) : chosen keep (bytes ++ (front ++ [newline]) ++ more) =
      sink.inner.taken ++ (passed keep (sink.pending ++ front) (sink.pending ++ front ++ [newline]) ++
        chosen keep more) := by
    rw [← chosen_append hline, List.append_assoc, h.taken]
    simp only [List.append_assoc, List.cons_append, List.nil_append]
  generalize { sink with pending := [] }.emit (sink.pending ++ front ++ [newline]) = emitted at *
  obtain ⟨e | _, after⟩ := emitted
  · refine ⟨hpending, fun more => ?_⟩
    rw [hchosen, htaken]
    exact (List.prefix_append_right_inj _).mpr (hsent.trans (List.prefix_append _ _))
  · refine ⟨hkeeps.trans h.keeps, ?_, fun more => ?_⟩
    · rw [hpending]
      exact List.not_mem_nil
    · rw [hchosen, htaken, hpending, hall rfl, List.nil_append]
      exact (List.append_assoc _ _ _).symm

/-- Lines are passed on one by one, until one fails or the data has no more that end. -/
theorem Passes.writeLines (h : Passes keep bytes sink) (data : List UInt8) :
    Outcome keep (bytes ++ data) (sink.writeLines data) := by
  fun_induction FilteredSink.writeLines sink data generalizing bytes with
  | case1 sink data begun =>
    -- No line ends here, so all of the data is held back.
    rename_i hend
    have hall : data.takeWhile (· ≠ newline) = data := by
      have hwhole := List.takeWhile_append_dropWhile (p := (· ≠ newline)) (l := data)
      rwa [hend, List.append_nil] at hwhole
    have hbegun : begun = sink.pending ++ data := congrArg (sink.pending ++ ·) hall
    have hnone : newline ∉ data := hall ▸ newline_not_mem_takeWhile data
    rw [hbegun]
    refine ⟨h.keeps, fun hmem => (List.mem_append.mp hmem).elim h.unended hnone, fun more => ?_⟩
    rw [List.append_assoc, h.taken, List.append_assoc]
  | case2 sink data begun last rest hsplit e after =>
    rename_i hemit
    obtain ⟨rfl, hdata⟩ := eq_append_of_dropWhile hsplit
    have hfirst := h.emit (newline_not_mem_takeWhile data)
    rw [hemit] at hfirst
    rw [hdata, ← List.append_assoc]
    exact Broken.append hfirst rest
  | case3 sink data begun last rest hsplit after hemit =>
    rename_i ih
    obtain ⟨rfl, hdata⟩ := eq_append_of_dropWhile hsplit
    have hfirst := h.emit (newline_not_mem_takeWhile data)
    rw [hemit] at hfirst
    rw [hdata, ← List.append_assoc]
    exact ih hfirst

theorem Passes.write (h : Passes keep bytes sink) (data : List UInt8) :
    Outcome keep (bytes ++ data) (ByteSink.write sink data) := by
  have hlines := h.writeLines data
  rw [write_of_some h.keeps]
  generalize sink.writeLines data = written at hlines
  obtain ⟨e | _, after⟩ := written <;> exact hlines

/-- A flush passes on what was held back as the last line. -/
theorem Passes.flush (h : Passes keep bytes sink) :
    (ByteSink.flush sink).2.inner.taken <+: chosen keep bytes ∧
      ((ByteSink.flush sink).1 = .ok () →
        (ByteSink.flush sink).2.inner.taken = chosen keep bytes) := by
  have htext : lineText sink.pending = Text.decodeLossy sink.pending :=
    (Text.dropEnd_decodeLossy h.unended).1
  obtain ⟨-, -, sent, hsent, htaken, hall⟩ :=
    taken_emit { sink with pending := [] } h.keeps htext
  have hchosen : chosen keep bytes =
      sink.inner.taken ++ passed keep sink.pending sink.pending := by
    have hwhole := h.taken []
    rwa [List.append_nil, List.append_nil, chosen_of_unended h.unended] at hwhole
  rw [flush_eq, hchosen]
  generalize { sink with pending := [] }.emit sink.pending = emitted at *
  obtain ⟨e | _, after⟩ := emitted
  · refine ⟨?_, nofun⟩
    rw [htaken]
    exact (List.prefix_append_right_inj _).mpr hsent
  · have hwhole : after.inner.taken = sink.inner.taken ++ passed keep sink.pending sink.pending :=
      hall rfl ▸ htaken
    exact ⟨hwhole ▸ List.prefix_rfl, fun _ => hwhole⟩

/-- Behind a failure a flush has nothing to pass on. -/
theorem Broken.flush (h : Broken keep bytes sink) :
    (ByteSink.flush sink).2.inner.taken <+: chosen keep bytes := by
  have hprefix := h.taken []
  rw [List.append_nil] at hprefix
  rw [flush_eq, h.pending, emit_nil]
  exact hprefix

end Choosing

section Parts

variable {κ : Type} [ByteSink κ]

/-- Writes the given data one after another, until a write fails. -/
def feed (sink : FilteredSink κ) : List (List UInt8) → Except TransferError Unit × FilteredSink κ
  | [] => (.ok (), sink)
  | data :: parts => match ByteSink.write sink data with
    | (.error e, sink) => (.error e, sink)
    | (.ok _, sink) => feed sink parts

theorem Passes.feed {keep : String → Bool} {bytes : List UInt8}
    {sink : FilteredSink (RecordedSink κ)} (h : Passes keep bytes sink) (parts : List (List UInt8)) :
    Outcome keep (bytes ++ parts.flatten) (sink.feed parts) := by
  induction parts generalizing bytes sink with
  | nil =>
    rw [List.flatten_nil, List.append_nil]
    exact h
  | cons data parts ih =>
    have hfirst := h.write data
    rw [FilteredSink.feed, List.flatten_cons, ← List.append_assoc]
    generalize ByteSink.write sink data = written at hfirst
    obtain ⟨e | n, after⟩ := written
    · exact Broken.append hfirst _
    · exact ih hfirst

theorem Passes.feed_of_accepting {keep : String → Bool} {bytes : List UInt8}
    {sink : FilteredSink (RecordedSink κ)} (h : Passes keep bytes sink)
    (haccepting : Accepting sink.inner) (parts : List (List UInt8)) :
    (sink.feed parts).1 = .ok () ∧ Accepting (sink.feed parts).2.inner := by
  induction parts generalizing bytes sink with
  | nil => exact ⟨rfl, haccepting⟩
  | cons data parts ih =>
    have hok : (ByteSink.write sink data).1 = .ok data.length := by
      rw [write_of_some h.keeps, writeLines_of_accepting haccepting]
      rfl
    have hfirst := h.write data
    have hlater := haccepting.of_uses (uses_write sink data)
    rw [FilteredSink.feed]
    generalize ByteSink.write sink data = written at *
    obtain ⟨_, after⟩ := written
    obtain rfl : _ = Except.ok data.length := hok
    exact ih hfirst hlater

/-- A filter before any sink. Whatever the parts in which some bytes are written until a write fails, and
flushed then, what the sink has taken is a first part of the lines that are kept, and a write that
succeeds counts all of its data. If the sink accepts everything, no write fails, and it has taken all of
these lines; and a copy of a log through a filter answers what it does without one and leaves the log as
it does without one, so that the same point is recorded when it is closed. -/
theorem taken_of_parts {σ : Type} [PageSource σ] {μ : Type} [OffsetMapper μ] (keep : String → Bool)
    (inner : κ) (parts : List (List UInt8)) (log : ViewerLog σ) (cursors : μ) (offset : UInt64) :
    let begun : FilteredSink (RecordedSink κ) := { inner := ⟨inner, []⟩, keeps := some keep }
    let fed := begun.feed parts
    let last := ByteSink.flush fed.2
    last.2.inner.taken <+: chosen keep parts.flatten ∧
    (∀ (sink : FilteredSink κ) (data : List UInt8) (n : Nat), sink.keeps = some keep →
      (ByteSink.write sink data).1 = .ok n → n = data.length) ∧
    (Accepting inner →
      (fed.1 = .ok () ∧ last.1 = .ok () ∧ last.2.inner.taken = chosen keep parts.flatten) ∧
      ∀ (keeps : Option (String → Bool)) (recorded : μ),
        let plain := log.writeTo cursors offset inner
        let filtered := log.writeTo cursors offset ({ inner, keeps } : FilteredSink κ)
        filtered.1 = plain.1 ∧ filtered.2.1 = plain.2.1 ∧
          (filtered.2.1.stream.close recorded).2 = (plain.2.1.stream.close recorded).2) := by
  intro begun fed last
  have hbegun : Passes keep [] begun := ⟨rfl, List.not_mem_nil, fun more => rfl⟩
  have hfed : Outcome keep parts.flatten fed := hbegun.feed parts
  refine ⟨?_, ?_, ?_⟩
  · change (ByteSink.flush fed.2).2.inner.taken <+: _
    generalize fed = fed at hfed
    obtain ⟨e | _, after⟩ := fed
    · exact Broken.flush hfed
    · exact (Passes.flush hfed).1
  · intro sink data n hkeeps hok
    rw [write_of_some hkeeps] at hok
    generalize sink.writeLines data = written at hok
    obtain ⟨e | _, after⟩ := written
    · exact nomatch hok
    · exact (Except.ok.inj hok).symm
  · intro haccepting
    refine ⟨?_, ?_⟩
    · obtain ⟨hok, hlater⟩ := hbegun.feed_of_accepting (RecordedSink.accepting haccepting []) parts
      have hflush : last.1 = .ok () := flush_of_accepting hlater
      exact ⟨hok, hflush, (hfed.passes hok).flush.2 hflush⟩
    · intro keeps recorded plain filtered
      obtain ⟨-, -, hplain, hlog, -⟩ := log.writeTo_of_accepting cursors offset haccepting
      obtain ⟨-, -, hfiltered, hsame, -⟩ := log.writeTo_of_accepting cursors offset
        (accepting { inner, keeps } haccepting)
      have hstream : filtered.2.1 = plain.2.1 := hsame.trans hlog.symm
      exact ⟨hfiltered.trans hplain.symm, hstream, by rw [hstream]⟩

/-- Three lines in two parts, before a sink that takes three bytes at a time. -/
theorem taken_of_parts_threeLines :
    let begun : FilteredSink (RecordedSink LimitedSink) :=
      { inner := ⟨{ chunk := some 3 }, []⟩, keeps := some (· != "b") }
    let fed := begun.feed [[97, 10, 98], [10, 99]]
    fed.1 = .ok () ∧ (ByteSink.flush fed.2).2.inner.taken = [97, 10, 99] := by
  let log : ViewerLog ScriptedSource := .ofStream (.ofLines { source := { outcomes := [] } })
  let cursors : CursorView := ⟨.empty, none⟩
  have hchosen : chosen (· != "b") [97, 10, 98, 10, 99] = [97, 10, 99] := by
    simp [chosen, splitLines, newline, Text.decodeLossy, Text.decodeChars_ascii, Text.decodeChars]
  obtain ⟨-, -, hall⟩ := taken_of_parts (· != "b") ({ chunk := some 3 } : LimitedSink)
    [[97, 10, 98], [10, 99]] log cursors 0
  obtain ⟨⟨hok, -, htaken⟩, -⟩ := hall (LimitedSink.accepting rfl rfl rfl)
  exact ⟨hok, htaken.trans hchosen⟩

end Parts

end FilteredSink

end RunLog
