import Mathlib.Logic.Relation
import RunLog.Proofs.Resuming

namespace RunLog

open LogBackend

/-- A viewer of a log: its stream, and what came of it so far. -/
structure Viewer (φ : Type) where
  stream : ByteStream (PagedSource φ)
  handle : Handle
  /-- The offset at which the viewer began. -/
  base : Nat := 0
  received : List UInt8 := []
  /-- Nothing was read or skipped yet. -/
  fresh : Bool := true

/-- What a viewer can do with its stream. -/
inductive ViewerCall where
  | skip (n : UInt64)
  | read (n : Nat)
  | available
  | close
deriving DecidableEq

namespace Viewer

variable {φ : Type} [PageFetcher φ]

/-- The viewer and the cache after a call. A skip moves the begin to an offset that is recorded. -/
def act (v : Viewer φ) (cache : CursorCache) : ViewerCall → Viewer φ × CursorCache
  | .skip n =>
    let found := !v.stream.lines.isClosed && (cache.lookup v.handle n).isSome
    let stream := (v.stream.skip (⟨cache, some v.handle⟩ : CursorView) n).2
    ({ v with stream, base := if found then n.toNat else v.base, fresh := false }, cache)
  | .read n =>
    let data := match (v.stream.read n).1 with
      | .ok data => data
      | .error _ => []
    ({ v with stream := (v.stream.read n).2, received := v.received ++ data, fresh := false }, cache)
  | .available => ({ v with stream := v.stream.available.2 }, cache)
  | .close =>
    let closed := v.stream.close (⟨cache, some v.handle⟩ : CursorView)
    ({ v with stream := closed.1 }, closed.2.cache)

/-- No breaker has tripped. -/
def Quiet (v : Viewer φ) : Prop := v.stream.lines.source.cursor.tripped = none

theorem quiet_of_act {v : Viewer φ} {cache : CursorCache} {call : ViewerCall}
    (h : (v.act cache call).1.Quiet) : v.Quiet := by
  cases call with
  | skip n => exact (ByteStream.tripped_skip v.stream _ n).symm.trans h
  | read n => exact ByteStream.tripped_of_read h
  | available => exact ByteStream.tripped_of_available h
  | close => exact (ByteStream.tripped_close v.stream _).symm.trans h

variable [LogBackend φ]

/-- A viewer has received the bytes between its begin and the offset that its stream has reached. An
open stream stands there; that of a closed one is recorded. -/
structure Sound (stored log : List LogLine) (cache : CursorCache) (v : Viewer φ) : Prop where
  current : cache.IsCurrent v.handle
  begins : v.fresh = true → v.base = 0
  base_le : v.base ≤ v.stream.bytesRead.toNat
  reached_le : v.stream.bytesRead.toNat ≤ (render log).length
  received : v.received = (render log).extract v.base v.stream.bytesRead.toNat
  stands : v.stream.lines.isClosed = false → ∃ p : Place log, v.stream.Stands True stored p ∧
    (v.fresh = true → p.offset = 0 ∧ v.stream.rest = [])
  recorded : v.stream.lines.isClosed = true → v.stream.bytesRead ≠ 0 →
    (cache.get? v.handle.key v.stream.bytesRead).isSome

variable {stored log : List LogLine} {cache : CursorCache} {v : Viewer φ}

theorem Sound.mono (h : v.Sound stored log cache) {cache' : CursorCache}
    (hcurrent : cache'.IsCurrent v.handle)
    (hkeep : ∀ o, (cache.get? v.handle.key o).isSome → (cache'.get? v.handle.key o).isSome) :
    v.Sound stored log cache' where
  current := hcurrent
  begins := h.begins
  base_le := h.base_le
  reached_le := h.reached_le
  received := h.received
  stands := h.stands
  recorded := fun hc hne => hkeep _ (h.recorded hc hne)

theorem Sound.append (h : v.Sound stored log cache) (hc : v.stream.lines.isClosed = true)
    (stored' more : List LogLine) : v.Sound stored' (log ++ more) cache where
  current := h.current
  begins := h.begins
  base_le := h.base_le
  reached_le := by
    rw [render_append, List.length_append]
    exact Nat.le_add_right_of_le h.reached_le
  received := by
    rw [render_append, extract_append h.base_le h.reached_le]
    exact h.received
  stands := fun ho => nomatch hc.symm.trans ho
  recorded := h.recorded

theorem Sound.used (h : v.Sound stored log cache) :
    Sound stored log cache { v with fresh := false } where
  current := h.current
  begins := nofun
  base_le := h.base_le
  reached_le := h.reached_le
  received := h.received
  stands := by
    intro ho
    obtain ⟨p, hstands, -⟩ := h.stands ho
    exact ⟨p, hstands, nofun⟩
  recorded := h.recorded

/-- While its stream is open, a viewer is sound if the stream stands where the received bytes end. -/
theorem sound_of_stands {p : Place log} (hstands : v.stream.Stands True stored p)
    (hcurrent : cache.IsCurrent v.handle) (hbase : v.base ≤ p.offset)
    (hreceived : v.received = (render log).extract v.base p.offset)
    (hbegin : v.fresh = true → v.base = 0 ∧ p.offset = 0 ∧ v.stream.rest = []) :
    v.Sound stored log cache := by
  have hreached := hstands.marked.bytesRead
  refine ⟨hcurrent, fun hf => (hbegin hf).1, ?_, ?_, ?_, ?_, ?_⟩
  · rw [hreached]
    exact hbase
  · rw [hreached]
    exact p.offset_le
  · rw [hreached]
    exact hreceived
  · intro _
    exact ⟨p, hstands, fun hf => (hbegin hf).2⟩
  · intro hclosed
    exact nomatch hclosed.symm.trans hstands.isOpen

/-- A skip finds a recorded offset or nothing; the viewer begins there. -/
theorem Sound.skip (h : v.Sound stored log cache) (hserves : cache.Serves v.handle log)
    (hsize : (render log).length < UInt64.size) (hfresh : v.fresh = true) (n : UInt64) :
    (v.act cache (.skip n)).1.Sound stored log cache := by
  cases hc : v.stream.lines.isClosed with
  | true =>
    have hsame : (v.act cache (.skip n)).1 = { v with fresh := false } := by
      simp [act, ByteStream.skip, hc]
    rw [hsame]
    exact h.used
  | false =>
    obtain ⟨p, hstands, hbegin⟩ := h.stands hc
    obtain ⟨hzero, hrest⟩ := hbegin hfresh
    obtain ⟨q, -, hlands, hoffset⟩ := hstands.skip hrest hzero hsize hserves n
    have hbase : (v.act cache (.skip n)).1.base = q.offset := by
      simp only [act, hc, Bool.not_false, Bool.true_and, hserves.current.lookup]
      rw [hoffset, h.begins hfresh]
    -- Nothing was received before the skip, and nothing is by it.
    have hnone : (v.act cache (.skip n)).1.received = [] := by
      change v.received = []
      rw [h.received, h.begins hfresh, hstands.marked.bytesRead, hzero]
      rfl
    have hlands : (v.act cache (.skip n)).1.stream.Stands True stored q := hlands
    apply sound_of_stands hlands h.current
    · exact Nat.le_of_eq hbase
    · rw [hbase, hnone]
      simp
    · intro hf
      exact absurd hf Bool.false_ne_true

/-- A read adds to what was received the bytes that follow it in the log. -/
theorem Sound.read (h : v.Sound stored log cache) (hsize : (render log).length < UInt64.size) (n : Nat)
    (hq : (v.act cache (.read n)).1.Quiet) : (v.act cache (.read n)).1.Sound stored log cache := by
  cases hc : v.stream.lines.isClosed with
  | true =>
    have hsame : (v.act cache (.read n)).1 = { v with fresh := false } := by
      simp [act, ByteStream.read_of_closed hc]
    rw [hsame]
    exact h.used
  | false =>
    obtain ⟨p, hstands, -⟩ := h.stands hc
    have hreached := hstands.marked.bytesRead
    have hbase := h.base_le
    have hreceived := h.received
    rw [hreached] at hbase hreceived
    rcases hstands.read hsize n hq with ⟨q, data, hans, hafter, hoffset, hpre, -⟩ | ⟨-, hsure, -⟩
    · -- The stream moves on by what is read, and so does the end of what was received.
      have hdata : (v.act cache (.read n)).1.received = v.received ++ data := by
        simp only [act, hans]
      have hafter : (v.act cache (.read n)).1.stream.Stands True stored q := hafter
      apply sound_of_stands hafter h.current
      · rw [hoffset]
        exact Nat.le_add_right_of_le hbase
      · rw [hdata, hreceived, hoffset]
        exact extract_append_next hbase hpre
      · intro hf
        exact absurd hf Bool.false_ne_true
    · exact absurd trivial hsure

theorem Sound.available (h : v.Sound stored log cache) (hq : (v.act cache .available).1.Quiet) :
    (v.act cache .available).1.Sound stored log cache := by
  cases hc : v.stream.lines.isClosed with
  | true =>
    have hsame : (v.act cache .available).1 = v := by
      simp [act, ByteStream.available, hc]
    rw [hsame]
    exact h
  | false =>
    obtain ⟨p, hstands, hbegin⟩ := h.stands hc
    have hreached := hstands.marked.bytesRead
    have hbase := h.base_le
    have hreceived := h.received
    rw [hreached] at hbase hreceived
    rcases hstands.available hq with ⟨-, hafter, hrest⟩ | ⟨-, hsure, -⟩
    · have hafter : (v.act cache .available).1.stream.Stands True stored p := hafter
      apply sound_of_stands hafter h.current hbase hreceived
      intro hf
      obtain ⟨hzero, hidle⟩ := hbegin hf
      exact ⟨h.begins hf, hzero, hrest.trans hidle⟩
    · exact absurd trivial hsure

/-- Closing leaves what was received as it is and records the offset that was reached. -/
theorem Sound.close (h : v.Sound stored log cache) (hserves : cache.Serves v.handle log) :
    (v.act cache .close).1.Sound stored log (v.act cache .close).2 ∧
      (v.act cache .close).2.Serves v.handle log ∧
      ∀ o, (cache.get? v.handle.key o).isSome →
        ((v.act cache .close).2.get? v.handle.key o).isSome := by
  cases hc : v.stream.lines.isClosed with
  | true =>
    have hsame : v.act cache .close = (v, cache) := by
      simp [act, ByteStream.close, hc]
    rw [hsame]
    exact ⟨h, hserves, fun _ ho => ho⟩
  | false =>
    obtain ⟨p, hstands, -⟩ := h.stands hc
    obtain ⟨cache', hview, hserves', hkeep, hnow, hclosed, hreached⟩ :=
      hstands.marked.close hc hserves
    -- The offset of the stream stays, and the cache knows it now unless it is zero.
    have hcache : (v.act cache .close).2 = cache' := congrArg CursorView.cache hview
    have hreached : (v.act cache .close).1.stream.bytesRead = v.stream.bytesRead := hreached
    have hclosed : (v.act cache .close).1.stream.lines.isClosed = true := hclosed
    rw [hcache]
    refine ⟨⟨hserves'.current, h.begins, ?_, ?_, ?_, ?_, ?_⟩, hserves', hkeep⟩
    · rw [hreached]
      exact h.base_le
    · rw [hreached]
      exact h.reached_le
    · rw [hreached]
      exact h.received
    · intro ho
      exact absurd (ho.symm.trans hclosed) Bool.false_ne_true
    · intro _ hne
      rw [hreached] at hne ⊢
      refine hnow fun hzero => hne ?_
      exact UInt64.toNat_inj.mp (hstands.marked.bytesRead.trans hzero)

end Viewer

/-- A log, the cursor cache that its viewers share, and the viewers in the order in which they came. -/
structure Scene (φ : Type) where
  lines : List LogLine
  cache : CursorCache
  viewers : List (Viewer φ) := []

namespace Scene

variable {φ : Type} [PageFetcher φ]

/-- The scene with one more viewer, who takes a hold on the offsets of the stream. -/
def join (scene : Scene φ) (key : StreamKey) (stream : ByteStream (PagedSource φ)) : Scene φ :=
  { scene with
    cache := (scene.cache.hold key).2
    viewers := scene.viewers ++ [{ stream, handle := (scene.cache.hold key).1 }] }

/-- No breaker has tripped for any viewer. -/
def Quiet (scene : Scene φ) : Prop := ∀ v ∈ scene.viewers, v.Quiet

variable [LogBackend φ]

/-- What can happen: lines are appended while no stream is open, a viewer opens the log of an honest
backend, or one of the viewers makes a call. Only a viewer who did not read yet skips, and once. -/
inductive Step (key : StreamKey) (start : LineId) : Scene φ → Scene φ → Prop
  | append (scene : Scene φ) (more : List LogLine)
      (hclosed : ∀ v ∈ scene.viewers, v.stream.lines.isClosed = true)
      (hlog : IsLog (scene.lines ++ more))
      (hsize : (render (fromId start (scene.lines ++ more))).length < UInt64.size) :
      Step key start scene { scene with lines := scene.lines ++ more }
  | join (scene : Scene φ) (backend : φ) (limits : Limits) (mode : OpenMode)
      (stream : ByteStream (PagedSource φ)) (hstored : stored backend = scene.lines)
      (hsteady : Steady backend) (hpage : 1 ≤ limits.pageSize)
      (hopen : mode.open? (PagedSource.start backend start limits) = some stream) :
      Step key start scene (scene.join key stream)
  | call (scene : Scene φ) (before after : List (Viewer φ)) (v : Viewer φ) (call : ViewerCall)
      (hviewers : scene.viewers = before ++ v :: after)
      (hskip : ∀ n, call = .skip n → v.fresh = true) :
      Step key start scene
        { scene with
          cache := (v.act scene.cache call).2
          viewers := before ++ (v.act scene.cache call).1 :: after }

variable {key : StreamKey} {start : LineId} {scene scene' : Scene φ}

theorem quiet_of_step (h : Step key start scene scene') (hq : scene'.Quiet) : scene.Quiet := by
  cases h with
  | append => exact hq
  | join => exact fun v hv => hq v (List.mem_append_left _ hv)
  | call before after v call hviewers =>
    intro w hw
    rw [hviewers] at hw
    rcases List.mem_append.mp hw with hw | hw
    · exact hq w (List.mem_append_left _ hw)
    rcases List.mem_cons.mp hw with rfl | hw
    · exact Viewer.quiet_of_act (hq _ (List.mem_append_right _ List.mem_cons_self))
    · exact hq w (List.mem_append_right _ (List.mem_cons_of_mem _ hw))

/-- The invariant of a scene: what the cache has recorded is true of the log, and all viewers are
sound. -/
structure Sound (key : StreamKey) (start : LineId) (scene : Scene φ) : Prop where
  isLog : IsLog scene.lines
  size : (render (fromId start scene.lines)).length < UInt64.size
  wellFormed : scene.cache.WellFormed
  faithful : ∀ offset point, scene.cache.get? key offset = some point →
    Faithful (fromId start scene.lines) offset point
  viewers : ∀ v ∈ scene.viewers, v.handle.key = key ∧
    v.Sound scene.lines (fromId start scene.lines) scene.cache

theorem Sound.serves (h : scene.Sound key start) {v : Viewer φ} (hv : v ∈ scene.viewers) :
    scene.cache.Serves v.handle (fromId start scene.lines) := by
  obtain ⟨hkey, hsound⟩ := h.viewers v hv
  refine ⟨h.wellFormed, hsound.current, ?_⟩
  rw [hkey]
  exact h.faithful

theorem Sound.append (h : scene.Sound key start) {more : List LogLine}
    (hclosed : ∀ v ∈ scene.viewers, v.stream.lines.isClosed = true)
    (hlog : IsLog (scene.lines ++ more))
    (hsize : (render (fromId start (scene.lines ++ more))).length < UInt64.size) :
    Sound key start { scene with lines := scene.lines ++ more } := by
  -- Seen from the window on, too, lines are appended at the end.
  have hfrom : fromId start (scene.lines ++ more) = fromId start scene.lines ++ fromId start more :=
    List.filter_append ..
  refine ⟨hlog, hsize, h.wellFormed, ?_, ?_⟩
  · intro offset point hp
    change Faithful (fromId start (scene.lines ++ more)) offset point
    rw [hfrom]
    exact (h.faithful offset point hp).append _
  · intro v hv
    obtain ⟨hkey, hsound⟩ := h.viewers v hv
    refine ⟨hkey, ?_⟩
    change v.Sound (scene.lines ++ more) (fromId start (scene.lines ++ more)) scene.cache
    rw [hfrom]
    exact hsound.append (hclosed v hv) _ _

/-- A new viewer begins at the first byte, and the others keep what they hold. -/
theorem Sound.join (h : scene.Sound key start) {backend : φ} {limits : Limits} {mode : OpenMode}
    {stream : ByteStream (PagedSource φ)} (hstored : stored backend = scene.lines)
    (hsteady : Steady backend) (hpage : 1 ≤ limits.pageSize)
    (hopen : mode.open? (PagedSource.start backend start limits) = some stream)
    (hq : stream.lines.source.cursor.tripped = none) : (scene.join key stream).Sound key start := by
  have hlog : IsLog (stored backend) := hstored ▸ h.isLog
  have hfrom : fromId start scene.lines = fromId start (stored backend) := by rw [hstored]
  obtain ⟨hstands, hrest⟩ :=
    OpenMode.stands_of_open? hlog (fun _ => hsteady) start hpage hopen hq hfrom
  rw [hstored] at hstands
  -- Taking a hold shows nowhere in what is recorded.
  have hheld := CursorCache.serves_hold h.wellFormed h.faithful
  refine ⟨h.isLog, h.size, hheld.wellFormed, ?_, ?_⟩
  · intro offset point hp
    rw [Scene.join, CursorCache.get?_hold] at hp
    exact h.faithful offset point hp
  · intro v hv
    rcases List.mem_append.mp hv with hv | hv
    · obtain ⟨hkey, hsound⟩ := h.viewers v hv
      -- The stream is known already, so its generation stays.
      have hsame : (scene.cache.hold key).2 = scene.cache := by
        rw [← hkey, hsound.current.hold]
      refine ⟨hkey, ?_⟩
      change v.Sound scene.lines (fromId start scene.lines) (scene.cache.hold key).2
      rw [hsame]
      exact hsound
    · obtain rfl := List.mem_singleton.mp hv
      refine ⟨CursorCache.key_hold _ _, ?_⟩
      apply Viewer.sound_of_stands hstands hheld.current
      · exact Nat.zero_le _
      · rfl
      · exact fun _ => ⟨rfl, rfl, hrest⟩

/-- A call of one viewer leaves that viewer sound, and records nothing that others could not use. -/
theorem Sound.call (h : scene.Sound key start) {v : Viewer φ} (hv : v ∈ scene.viewers)
    {call : ViewerCall} (hskip : ∀ n, call = .skip n → v.fresh = true)
    (hq : (v.act scene.cache call).1.Quiet) :
    (v.act scene.cache call).1.handle = v.handle ∧
    (v.act scene.cache call).1.Sound scene.lines (fromId start scene.lines)
      (v.act scene.cache call).2 ∧
    (v.act scene.cache call).2.Serves v.handle (fromId start scene.lines) ∧
    ∀ o, (scene.cache.get? v.handle.key o).isSome →
      ((v.act scene.cache call).2.get? v.handle.key o).isSome := by
  have hserves := h.serves hv
  obtain ⟨-, hsound⟩ := h.viewers v hv
  cases call with
  | skip n =>
    exact ⟨rfl, hsound.skip hserves h.size (hskip n rfl) n, hserves, fun _ ho => ho⟩
  | read n => exact ⟨rfl, hsound.read h.size n hq, hserves, fun _ ho => ho⟩
  | available => exact ⟨rfl, hsound.available hq, hserves, fun _ ho => ho⟩
  | close => exact ⟨rfl, hsound.close hserves⟩

theorem Sound.step (h : scene.Sound key start) (hstep : Step key start scene scene')
    (hq : scene'.Quiet) : scene'.Sound key start := by
  -- By cases of what happened; the scene before was as quiet as the one after.
  cases hstep with
  | append more hclosed hlog hsize => exact h.append hclosed hlog hsize
  | join backend limits mode stream hstored hsteady hpage hopen =>
    apply h.join hstored hsteady hpage hopen
    exact hq ⟨stream, (scene.cache.hold key).1, 0, [], true⟩ (List.mem_append_right _ List.mem_cons_self)
  | call before after v call hviewers hskip =>
    have hv : v ∈ scene.viewers := hviewers ▸ List.mem_append_right _ List.mem_cons_self
    have hquiet := hq _ (List.mem_append_right _ List.mem_cons_self)
    obtain ⟨hkey, hsound⟩ := h.viewers v hv
    obtain ⟨hhandle, hafter, hserves, hkeep⟩ := h.call hv hskip hquiet
    -- All viewers hold the same generation, the one that is current.
    have hothers : ∀ w ∈ scene.viewers, w.handle.key = key ∧
        w.Sound scene.lines (fromId start scene.lines) (v.act scene.cache call).2 := by
      intro w hw
      obtain ⟨hwkey, hwsound⟩ := h.viewers w hw
      have hsame : w.handle = v.handle := by
        have hw' := hwsound.current.hold
        rw [hwkey, ← hkey, hsound.current.hold] at hw'
        exact (congrArg Prod.fst hw').symm
      refine ⟨hwkey, hwsound.mono ?_ ?_⟩
      · rw [hsame]
        exact hserves.current
      · rw [hsame]
        exact hkeep
    refine ⟨h.isLog, h.size, hserves.wellFormed, ?_, ?_⟩
    · intro offset point hp
      rw [← hkey] at hp
      exact hserves.faithful offset point hp
    · intro w hw
      rcases List.mem_append.mp hw with hw | hw
      · exact hothers w (hviewers ▸ List.mem_append_left _ hw)
      rcases List.mem_cons.mp hw with rfl | hw
      · exact ⟨hhandle ▸ hkey, hafter⟩
      · exact hothers w (hviewers ▸ List.mem_append_right _ (List.mem_cons_of_mem _ hw))

theorem Sound.run (h : scene.Sound key start)
    (hrun : Relation.ReflTransGen (Step key start) scene scene') (hq : scene'.Quiet) :
    scene'.Sound key start := by
  induction hrun with
  | refl => exact h
  | tail _ hstep ih => exact (ih (quiet_of_step hstep hq)).step hstep hq

/-- Resumed reads reconstruct the log, for any number of viewers. However streams over a growing log
are opened, skipped, read and closed in turns, each has delivered exactly the bytes of the log from
its begin to the offset that it has reached: none lost, none repeated. While a stream is open it goes
on, and comes to an end only at the end of the log; once it is closed its offset is recorded, so that
others can begin there. -/
theorem received_eq (key : StreamKey) (start : LineId) {scene scene' : Scene φ}
    (hlog : IsLog scene.lines) (hsize : (render (fromId start scene.lines)).length < UInt64.size)
    (hcache : scene.cache.WellFormed) (hunknown : ∀ offset, scene.cache.get? key offset = none)
    (hviewers : scene.viewers = []) (hrun : Relation.ReflTransGen (Step key start) scene scene')
    (hquiet : scene'.Quiet) :
    ∀ v ∈ scene'.viewers,
      v.received =
        (render (fromId start scene'.lines)).extract v.base v.stream.bytesRead.toNat ∧
      v.base ≤ v.stream.bytesRead.toNat ∧
      v.stream.bytesRead.toNat ≤ (render (fromId start scene'.lines)).length ∧
      (v.stream.lines.isClosed = false → ∀ n, n ≠ 0 →
        (v.stream.read n).2.lines.source.cursor.tripped = none →
        ∃ data, (v.stream.read n).1 = .ok data ∧
          (data = [] ↔ v.stream.bytesRead.toNat = (render (fromId start scene'.lines)).length)) ∧
      (v.stream.lines.isClosed = true → v.stream.bytesRead ≠ 0 →
        (scene'.cache.get? key v.stream.bytesRead).isSome) := by
  have hinit : scene.Sound key start := by
    refine ⟨hlog, hsize, hcache, ?_, ?_⟩
    · intro offset point hp
      exact nomatch (hunknown offset).symm.trans hp
    · intro v hv
      exact nomatch hviewers ▸ hv
  have hfinal := hinit.run hrun hquiet
  intro v hv
  obtain ⟨hkey, hsound⟩ := hfinal.viewers v hv
  refine ⟨hsound.received, hsound.base_le, hsound.reached_le, ?_, ?_⟩
  · intro hopen n hn hq
    obtain ⟨p, hstands, -⟩ := hsound.stands hopen
    rcases hstands.read hfinal.size n hq with ⟨q, data, hans, -, -, -, hend⟩ | ⟨-, hsure, -⟩
    · refine ⟨data, hans, ?_⟩
      rw [hstands.marked.bytesRead, p.offset_eq_length_iff]
      exact hend hn
    · exact absurd trivial hsure
  · intro hclosed hne
    rw [← hkey]
    exact hsound.recorded hclosed hne

theorem received_eq_threeLines : ∃ scene : Scene StoredLog,
    Relation.ReflTransGen (Step ⟨"build", 1, none⟩ .least) ⟨threeLines.take 2, .empty, []⟩ scene ∧
    scene.lines = threeLines ∧ scene.viewers.length = 2 ∧
    ∀ v ∈ scene.viewers,
      v.received = (render threeLines).extract v.base v.stream.bytesRead.toNat := by
  have htwo : IsLog (threeLines.take 2) := isLog_threeLines.sublist (List.take_sublist 2 _)
  -- One viewer reads and goes, a line is appended, and another viewer goes on from there.
  have hrun : Relation.ReflTransGen (Step ⟨"build", 1, none⟩ .least)
      (⟨threeLines.take 2, .empty, []⟩ : Scene StoredLog) _ :=
    Relation.ReflTransGen.refl
      |>.tail (.join _ ⟨threeLines.take 2⟩ ⟨2, 9, 9⟩ (.plain false) _ rfl trivial (by decide) rfl)
      |>.tail (.call _ [] [] _ (.read 3) rfl nofun)
      |>.tail (.call _ [] [] _ .close rfl nofun)
      |>.tail (.append _ (threeLines.drop 2)
        (List.forall_mem_singleton.mpr (ByteStream.isClosed_close _ _)) isLog_threeLines (by decide))
      |>.tail (.join _ ⟨threeLines⟩ ⟨1, 9, 9⟩ (.plain true) _ rfl trivial (by decide) rfl)
      |>.tail (.call _ _ [] _ (.skip 3) rfl fun _ _ => rfl)
      |>.tail (.call _ _ [] _ (.read 100) rfl nofun)
  refine ⟨_, hrun, rfl, rfl, ?_⟩
  intro v hv
  refine (received_eq ⟨"build", 1, none⟩ .least htwo (by decide) CursorCache.wellFormed_empty
    (fun _ => rfl) rfl hrun ?_ v hv).1
  -- All bounds have room for three lines.
  have hfirst : PagedSource.Roomy (threeLines.take 2)
      (PagedSource.start (⟨threeLines.take 2⟩ : StoredLog) .least ⟨2, 9, 9⟩) :=
    PagedSource.roomy_start htwo trivial .least (by decide) (by decide) (by decide)
  have hsecond : PagedSource.Roomy threeLines
      (PagedSource.start (⟨threeLines⟩ : StoredLog) .least ⟨1, 9, 9⟩) :=
    PagedSource.roomy_start isLog_threeLines trivial .least (by decide) (by decide) (by decide)
  intro w hw
  rcases List.mem_append.mp hw with hw | hw
  · obtain rfl := List.mem_singleton.mp hw
    exact (ByteStream.tripped_close _ _).trans (ByteStream.roomy_read hfirst 3).tripped
  · obtain rfl := List.mem_singleton.mp hw
    exact (ByteStream.roomy_read (ByteStream.roomy_skip hsecond _ 3) 100).tripped

end Scene

end RunLog
