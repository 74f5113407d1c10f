import Mathlib.Logic.Relation
import RunLog.Proofs.Following
import RunLog.Proofs.Resuming

namespace RunLog.ByteStream

/-- What a reader does with a stream. A skip to a recorded offset goes at least to the end of the line
that is being read. -/
inductive Step {σ : Type} [PageSupply σ] (view : CursorView) : ByteStream σ → ByteStream σ → Prop
  | read (s : ByteStream σ) (n : Nat) : Step view s (s.read n).2
  | available (s : ByteStream σ) : Step view s s.available.2
  | skip (s : ByteStream σ) (n : UInt64)
      (hclear : (OffsetMapper.resumePoint? view (addOffset s.bytesRead n)).isSome →
        s.rest.length ≤ n.toNat) :
      Step view s (s.skip view n).2

open LogBackend

variable {φ : Type} [PageFetcher φ] {s t : ByteStream (PagedSource φ)}

theorem quiet_of_step {view : CursorView} (h : Step view s t)
    (hq : t.lines.source.cursor.tripped = none) : s.lines.source.cursor.tripped = none := by
  cases h with
  | read n => exact tripped_of_read hq
  | available => exact tripped_of_available hq
  | skip n _ => rwa [tripped_skip] at hq

theorem quiet_of_run {view : CursorView} (hrun : Relation.ReflTransGen (Step view) s t)
    (hq : t.lines.source.cursor.tripped = none) : s.lines.source.cursor.tripped = none := by
  induction hrun with
  | refl => exact hq
  | tail _ hstep ih => exact ih (quiet_of_step hstep hq)

variable [LogBackend φ] {stored log : List LogLine} {p : Place log} {cache : CursorCache}
  {handle : Handle}

theorem Stands.step (h : s.Stands True stored p) (hasc : Ascending log)
    (hsize : (render log).length < UInt64.size) (hserves : cache.Serves handle log)
    (hstep : Step ⟨cache, some handle⟩ s t) (hq : t.lines.source.cursor.tripped = none) :
    ∃ q : Place log, t.Stands True stored q := by
  cases hstep with
  | read n =>
    rcases h.read hsize n hq with ⟨q, data, -, hstands, -⟩ | ⟨-, hsure, -⟩
    · exact ⟨q, hstands⟩
    · exact absurd trivial hsure
  | available =>
    rcases h.available hq with ⟨-, hstands, -⟩ | ⟨-, hsure, -⟩
    · exact ⟨p, hstands⟩
    · exact absurd trivial hsure
  | skip n hclear =>
    obtain ⟨q, -, hstands, -⟩ := h.skip_of_clear hasc hsize hserves n fun hknown =>
      hclear ((congrArg Option.isSome (hserves.current.lookup _)).trans hknown)
    exact ⟨q, hstands⟩

/-- Whatever a reader does, the stream stands at a place of the log. -/
theorem Stands.run (h : s.Stands True stored p) (hasc : Ascending log)
    (hsize : (render log).length < UInt64.size) (hserves : cache.Serves handle log)
    (hrun : Relation.ReflTransGen (Step ⟨cache, some handle⟩) s t)
    (hq : t.lines.source.cursor.tripped = none) : ∃ q : Place log, t.Stands True stored q := by
  induction hrun with
  | refl => exact ⟨p, h⟩
  | tail _ hstep ih =>
    obtain ⟨q, hstands⟩ := ih (quiet_of_step hstep hq)
    exact hstands.step hasc hsize hserves hstep hq

/-- A stream brings the log from its place on, if no bound ends it. -/
theorem Stands.follows (h : s.Stands True stored p)
    (hq : s.lines.drain.2.2.source.cursor.tripped = none) : s.Follows p := by
  refine ⟨h.marked, ?_⟩
  cases h.holds with
  | between hrest hlines => exact .inl ⟨hrest, hlines.gives h.isOpen hq⟩
  | within line more hmid => exact .inr ⟨line, more, hmid.begun, hmid.lines.gives h.isOpen hq⟩

/-- A jump into the line that is being read goes on with the lines behind it. Of the first of these as
many bytes are passed over as come before the place in the line that is lost. -/
theorem Stands.gives_jump {q : Place log} (h : s.Stands True stored q) (hasc : Ascending log)
    (hsize : (render log).length < UInt64.size) {target : UInt64} (htarget : target.toNat = p.offset)
    (hle : q.offset ≤ p.offset) (hlt : p.offset < q.offset + s.rest.length)
    (hquiet : (s.jump target p.point).lines.drain.2.2.source.cursor.tripped = none) :
    ∃ line more, log = q.passed ++ line :: more ∧
      (render q.passed).length + line.bytes.length = q.offset + s.rest.length ∧
      (s.jump target p.point).lines.Gives more ∧
      (s.jump target p.point).discard = p.offset - (render q.passed).length := by
  cases h.holds with
  | between hrest hlines =>
    rw [hrest, List.length_nil] at hlt
    omega
  | within line more hmid =>
    have hlen := hmid.begun.length_rest
    have hlast := Place.into_lt hmid.ahead
    have hsplit : log = q.passed ++ line :: more := hmid.ahead ▸ q.split
    have hbegin : q.offset = (render q.passed).length + q.into := rfl
    -- The place lies in the line, so its point names the line before.
    obtain ⟨into, hinto, rfl⟩ : ∃ into, ∃ hi : into < line.bytes.length,
        p = .inside q.passed line more hsplit into hi := by
      refine ⟨p.offset - (render q.passed).length, by omega, Place.eq_of_offset_eq ?_⟩
      change p.offset = (render q.passed).length + (p.offset - (render q.passed).length)
      omega
    generalize hp : Place.inside q.passed line more hsplit into hinto = p at *
    have hpassed : p.passed = q.passed := by rw [← hp]; rfl
    have hoffset : p.offset = (render q.passed).length + into := by rw [← hp]; rfl
    have hothers : Ascending (q.passed ++ more) :=
      Ascending.sublist ((congrArg Ascending hsplit).mp hasc)
        ((List.sublist_cons_self line more).append_left q.passed)
    have hlines := yields_jump hmid.lines target p
    rw [hpassed, hothers.behindPage_eq] at hlines
    refine ⟨line, more, hsplit, by omega,
      hlines.gives ((s.isClosed_jump _ _).trans h.isOpen) hquiet, ?_⟩
    have hmarked := (s.markedAt_jump hsize htarget).discard_eq rfl
    rw [hmarked, hoffset, Nat.add_sub_cancel_left, ← hp]
    rfl

/-- A skip lands on the offset to which it goes, wherever reads and earlier skips have brought the
stream and however much of a line was read. Only if the offset lies within the line that is being read
the stream goes on behind that line: its rest is lost, and of the line behind it as many bytes as come
before the offset in the lost one. -/
theorem skip_lands (backend : φ) (hlog : IsLog (LogBackend.stored backend))
    (hsteady : Steady backend) (start : LineId) (limits : Limits) (hpage : 1 ≤ limits.pageSize)
    {log : List LogLine} (hfrom : log = fromId start (LogBackend.stored backend))
    (hsize : (render log).length < UInt64.size) {cache : CursorCache} {handle : Handle}
    (hserves : cache.Serves handle log) {mode : OpenMode} {first s : ByteStream (PagedSource φ)}
    (hopen : mode.open? (PagedSource.start backend start limits) = some first)
    (hrun : Relation.ReflTransGen (Step ⟨cache, some handle⟩) first s) (n target : UInt64)
    (htarget : target.toNat = s.bytesRead.toNat + n.toNat)
    (hknown : (cache.get? handle.key target).isSome)
    (hquiet : (s.skip (⟨cache, some handle⟩ : CursorView)
      n).2.lines.drain.2.2.source.cursor.tripped = none) :
    let skipped := s.skip (⟨cache, some handle⟩ : CursorView) n
    skipped.1 = .ok n ∧ skipped.2.bytesRead = target ∧
    (s.rest.length ≤ n.toNat → skipped.2.Delivers ((render log).drop target.toNat)) ∧
    (n.toNat < s.rest.length → ∃ front line more, log = front ++ line :: more ∧
      (render front).length + line.bytes.length = s.bytesRead.toNat + s.rest.length ∧
      ∀ sizes, (skipped.2.reads sizes).2.1 = none ∧
        (skipped.2.reads sizes).1 <+: passingOver (target.toNat - (render front).length) more) := by
  intro skipped
  have htripped := LineSequence.tripped_of_nextItem (LineSequence.tripped_of_drain hquiet)
  rw [tripped_skip] at htripped
  have hfirst := quiet_of_run hrun htripped
  have hasc : Ascending log := hfrom ▸ (hlog.fromId start).ascending
  obtain ⟨hbegin, -⟩ := OpenMode.stands_of_open? hlog (fun _ => hsteady) start hpage hopen hfirst hfrom
  obtain ⟨q, hstands⟩ := hbegin.run hasc hsize hserves hrun htripped
  have hreached := hstands.marked.bytesRead
  -- The offset skipped to is recorded, so it has a place in the log.
  obtain ⟨point, hget⟩ := Option.isSome_iff_exists.mp hknown
  obtain ⟨p, hoffset, rfl⟩ := hserves.faithful target point hget
  have hadd : addOffset s.bytesRead n = target := by
    have hlt := target.toNat_lt
    apply UInt64.toNat_inj.mp
    rw [toNat_addOffset]
    omega
  have hskip : skipped = (.ok n, s.jump target p.point) := by
    have hlookup : OffsetMapper.resumePoint? (⟨cache, some handle⟩ : CursorView) target =
        some p.point := (hserves.current.lookup target).trans hget
    change s.skip _ n = _
    rw [skip_of_open hstands.isOpen, hadd, hlookup]
  change skipped.2.lines.drain.2.2.source.cursor.tripped = none at hquiet
  rw [hskip] at hquiet ⊢
  refine ⟨rfl, rfl, ?_, ?_⟩
  · intro hclear
    have hlands := hstands.jump hasc (p := p) (by omega) hsize hoffset
    rw [hoffset]
    exact (hlands.follows hquiet).delivers hsize
  · intro hwithin
    obtain ⟨line, more, hsplit, hlen, hgives, hdiscard⟩ :=
      hstands.gives_jump hasc hsize hoffset (by omega) (by omega) hquiet
    refine ⟨q.passed, line, more, hsplit, by omega, fun sizes => ?_⟩
    rw [hoffset, ← hdiscard]
    exact reads_of_gives hgives sizes

section ThreeLines

/-- A stream over three lines. -/
def atBegin : ByteStream (PagedSource StoredLog) := ofLines { source := .start ⟨threeLines⟩ .least {} }

/-- The stream within the first line. -/
def inFirstLine : ByteStream (PagedSource StoredLog) := (atBegin.read 2).2

theorem open_atBegin :
    (OpenMode.plain false).open? (PagedSource.start (⟨threeLines⟩ : StoredLog) .least {}) =
      some atBegin := rfl

theorem stands_atBegin :
    atBegin.Stands True threeLines (.before [] threeLines rfl) ∧
      atBegin.lines.source.Roomy threeLines := by
  obtain ⟨hstands, -⟩ := OpenMode.stands_of_open? isLog_storedThreeLines (fun _ : True => trivial)
    .least (by decide) open_atBegin rfl (show threeLines = _ from rfl)
  exact ⟨hstands, PagedSource.roomy_start isLog_storedThreeLines trivial .least (by decide)
    (by decide) (by decide)⟩

theorem inFirstLine_eq :
    inFirstLine.rest = [101, 10] ∧ inFirstLine.bytesRead = 2 ∧
      inFirstLine.resumePoint? = some ⟨none, 2⟩ := by
  obtain ⟨hstands, hroom⟩ := stands_atBegin
  have hgives := (hstands.follows (LineSequence.roomy_drain hroom).tripped).coming
  have hline : atBegin.lines.nextLine.1 = .ok (some ⟨⟨10⟩, "one"⟩) := by
    rcases hgives with ⟨-, hgives⟩ | ⟨line, more, hbegun, -⟩
    · exact hgives.nextLine.1
    · exact absurd rfl hbegun.rest_ne_nil
  rw [inFirstLine, read_of_idle rfl (by decide) rfl, hline]
  exact ⟨rfl, rfl, rfl⟩

theorem skip_lands_threeLines :
    let cache := recordedAt (.inside [⟨⟨10⟩, "one"⟩] ⟨⟨20⟩, "two"⟩ [⟨⟨30⟩, "three"⟩] rfl 2 (by decide))
    let skipped := inFirstLine.skip (⟨cache, some freshHold.1⟩ : CursorView) 4
    skipped.1 = .ok 4 ∧ skipped.2.bytesRead = 6 ∧
      skipped.2.Delivers [111, 10, 116, 104, 114, 101, 101, 10] := by
  intro cache skipped
  obtain ⟨hserves, hget⟩ := serves_recordedAt
    (.inside [⟨⟨10⟩, "one"⟩] ⟨⟨20⟩, "two"⟩ [⟨⟨30⟩, "three"⟩] rfl 2 (by decide))
  obtain ⟨hrest, hbytes, -⟩ := inFirstLine_eq
  obtain ⟨-, hroom⟩ := stands_atBegin
  have hquiet := (LineSequence.roomy_drain (roomy_skip (roomy_read hroom 2)
    (⟨cache, some freshHold.1⟩ : CursorView) 4)).tripped
  obtain ⟨hanswer, hlanded, hwhole, -⟩ := skip_lands (⟨threeLines⟩ : StoredLog) isLog_threeLines trivial
    .least {} (by decide) rfl (by decide) hserves open_atBegin
    (.tail .refl (.read atBegin 2)) 4 6 (by rw [show (atBegin.read 2).2.bytesRead = 2 from hbytes]; rfl)
    (by rw [show (6 : UInt64) = UInt64.ofNat 6 from rfl]; exact hget ▸ rfl) hquiet
  exact ⟨hanswer, hlanded, hwhole (by rw [show (atBegin.read 2).2.rest = _ from hrest]; decide)⟩

/-- Two readers stop in the first of three lines, and the first of them records its place. When the
other one skips nothing from there, it goes on in the second line. -/
theorem skip_loses_line :
    let cursors : CursorView := ⟨freshHold.2, some freshHold.1⟩
    let skipped := inFirstLine.skip (inFirstLine.close cursors).2 0
    skipped.1 = .ok 0 ∧ skipped.2.bytesRead = inFirstLine.bytesRead ∧
      (render threeLines).drop skipped.2.bytesRead.toNat =
        [101, 10, 116, 119, 111, 10, 116, 104, 114, 101, 101, 10] ∧
      (skipped.2.read 100).1 = .ok [111, 10] := by
  intro cursors skipped
  obtain ⟨hrest, hbytes, hpoint⟩ := inFirstLine_eq
  obtain ⟨hbegin, hroom⟩ := stands_atBegin
  let p : Place threeLines := .inside [] ⟨⟨10⟩, "one"⟩ (threeLines.drop 1) rfl 2 (by decide)
  obtain ⟨hserves, hget⟩ := serves_recordedAt p
  have hopen : inFirstLine.lines.isClosed = false := isClosed_read atBegin 2
  have hclosed : (inFirstLine.close cursors).2 = ⟨recordedAt p, some freshHold.1⟩ := by
    rw [close_of_open hopen, hpoint, hbytes]
    rfl
  have hskip : skipped = (.ok 0, inFirstLine.jump 2 p.point) := by
    have htarget : addOffset inFirstLine.bytesRead 0 = 2 := by rw [hbytes]; rfl
    have hlookup : OffsetMapper.resumePoint? (⟨recordedAt p, some freshHold.1⟩ : CursorView) 2 =
        some p.point := (hserves.current.lookup 2).trans hget
    change inFirstLine.skip (inFirstLine.close cursors).2 0 = _
    rw [hclosed, skip_of_open hopen, htarget, hlookup]
  have hroomy : skipped.2.lines.source.Roomy threeLines := roomy_skip (roomy_read hroom 2) _ 0
  rw [hskip] at hroomy ⊢
  obtain ⟨q, hstands⟩ := hbegin.run isLog_threeLines.ascending (by decide) hserves
    (.tail .refl (.read atBegin 2)) (roomy_read hroom 2).tripped
  -- The other reader stands at the same place.
  obtain rfl : q = p := by
    apply Place.eq_of_offset_eq
    rw [← hstands.marked.bytesRead, show (atBegin.read 2).2.bytesRead = 2 from hbytes]
    rfl
  obtain ⟨line, more, hsplit, -, hgives, hdiscard⟩ := hstands.gives_jump isLog_threeLines.ascending
    (by decide) (show (2 : UInt64).toNat = _ from rfl) (Nat.le_refl _)
    (by rw [show (atBegin.read 2).2.rest = _ from hrest]; decide)
    (LineSequence.roomy_drain hroomy).tripped
  obtain ⟨rfl, rfl⟩ := List.cons.inj hsplit
  refine ⟨rfl, hbytes.symm, by decide, ?_⟩
  exact fst_read_of_gives hgives rfl (by decide)

end ThreeLines

end RunLog.ByteStream
