import RunLog.Cursors.Snapshot

namespace RunLog

theorem lookup_cons_eq {κ υ : Type} [DecidableEq κ] (key key' : κ) (value : υ)
    (entries : List (κ × υ)) :
    ((key', value) :: entries).lookup key = if key = key' then some value else entries.lookup key := by
  by_cases h : key = key'
  · simp [h]
  · have hne : (key == key') = false := by simpa using h
    simp [List.lookup_cons, h, hne]

theorem mem_of_lookup {κ υ : Type} [DecidableEq κ] {key : κ} {value : υ} {entries : List (κ × υ)}
    (h : entries.lookup key = some value) : (key, value) ∈ entries := by
  induction entries with
  | nil => exact nomatch h
  | cons e rest ih =>
    rw [lookup_cons_eq] at h
    split at h
    · next heq =>
      rw [heq, ← Option.some.inj h]
      exact List.mem_cons_self
    · exact List.mem_cons_of_mem _ (ih h)

theorem lookup_of_mem {κ υ : Type} [DecidableEq κ] {key : κ} {value : υ} {entries : List (κ × υ)}
    (hkeys : entries.Pairwise fun a b => a.1 ≠ b.1) (h : (key, value) ∈ entries) :
    entries.lookup key = some value := by
  induction entries with
  | nil => exact nomatch h
  | cons e rest ih =>
    obtain ⟨hne, hrest⟩ := List.pairwise_cons.mp hkeys
    rw [lookup_cons_eq]
    rcases List.mem_cons.mp h with rfl | hmem
    · exact if_pos rfl
    · rw [if_neg (Ne.symm (hne _ hmem))]
      exact ih hrest hmem

theorem ne_of_lookup_eq_none {κ υ : Type} [DecidableEq κ] {key : κ} {entries : List (κ × υ)}
    (h : entries.lookup key = none) : ∀ e ∈ entries, key ≠ e.1 := by
  intro e he heq
  have hnone := List.lookup_eq_none_iff.mp h e he
  simp [heq] at hnone

theorem lookup_filter_ne {κ υ : Type} [DecidableEq κ] (key key' : κ) (entries : List (κ × υ)) :
    (entries.filter fun e => e.1 ≠ key).lookup key' =
      if key' = key then none else entries.lookup key' := by
  induction entries with
  | nil => exact (ite_self none).symm
  | cons e rest ih =>
    obtain ⟨k, value⟩ := e
    by_cases hk : k = key
    · rw [List.filter_cons_of_neg (by simp [hk]), ih, lookup_cons_eq, hk]
      split <;> rfl
    · rw [List.filter_cons_of_pos (by simp [hk]), lookup_cons_eq, ih, lookup_cons_eq]
      by_cases h : key' = k
      · rw [if_pos h, if_pos h, if_neg (h ▸ hk)]
      · rw [if_neg h, if_neg h]

namespace OffsetMap

theorem lookup_insertEntry (offset o : UInt64) (point : ResumePoint)
    (entries : List (UInt64 × ResumePoint)) :
    (insertEntry offset point entries).lookup o =
      if o = offset then some point else entries.lookup o := by
  induction entries with
  | nil => exact lookup_cons_eq o offset point []
  | cons entry rest ih =>
    obtain ⟨o', p⟩ := entry
    unfold insertEntry
    split
    · exact lookup_cons_eq o offset point _
    · split
      · next heq =>
        rw [lookup_cons_eq, lookup_cons_eq, heq]
        split <;> rfl
      · next hne =>
        -- The entry goes further behind, and this one stays in front of it.
        rw [lookup_cons_eq, lookup_cons_eq, ih]
        by_cases h : o = o'
        · subst h
          rw [if_pos rfl, if_pos rfl, if_neg (Ne.symm hne)]
        · rw [if_neg h, if_neg h]

theorem get?_insert (map : OffsetMap) (offset o : UInt64) (point : ResumePoint) :
    (map.insert offset point).get? o = if o = offset then some point else map.get? o :=
  lookup_insertEntry offset o point map.entries

end OffsetMap

namespace CursorCache

variable {cache : CursorCache} {handle : Handle} {key : StreamKey}

/-- What all operations keep true of a cache: the streams it knows have generations of their own, all
of which were opened. -/
structure WellFormed (cache : CursorCache) : Prop where
  opened : ∀ e ∈ cache.live, e.2 < cache.generations.length
  keys : cache.live.Pairwise fun a b => a.1 ≠ b.1
  apart : cache.live.Pairwise fun a b => a.2 ≠ b.2

theorem wellFormed_empty : empty.WellFormed where
  opened := nofun
  keys := .nil
  apart := .nil

theorem WellFormed.open (h : cache.WellFormed) (hnew : ∀ e ∈ cache.live, key ≠ e.1)
    (map : OffsetMap) :
    WellFormed ⟨cache.generations ++ [map], (key, cache.generations.length) :: cache.live⟩ where
  opened := by
    intro e he
    rw [List.length_append, List.length_singleton]
    rcases List.mem_cons.mp he with rfl | he
    · exact Nat.lt_succ_self _
    · exact Nat.lt_succ_of_lt (h.opened e he)
  keys := List.pairwise_cons.mpr ⟨hnew, h.keys⟩
  apart := List.pairwise_cons.mpr ⟨fun e he => Nat.ne_of_gt (h.opened e he), h.apart⟩

theorem WellFormed.hold (h : cache.WellFormed) (key : StreamKey) : (cache.hold key).2.WellFormed := by
  unfold CursorCache.hold
  split
  · exact h
  · next hnone => exact h.open (ne_of_lookup_eq_none hnone) .empty

theorem WellFormed.record (h : cache.WellFormed) (handle : Handle) (offset : UInt64)
    (point : ResumePoint) : (cache.record handle offset point).WellFormed where
  opened := by
    intro e he
    rw [CursorCache.record, List.length_modify]
    exact h.opened e he
  keys := h.keys
  apart := h.apart

theorem WellFormed.forget (h : cache.WellFormed) (key : StreamKey) :
    (cache.forget key).2.WellFormed where
  opened := fun e he => h.opened e (List.mem_filter.mp he).1
  keys := h.keys.sublist List.filter_sublist
  apart := h.apart.sublist List.filter_sublist

/-- A cache that is read back from a snapshot is well formed. -/
theorem wellFormed_ofSnapshot (snapshot : CursorSnapshot) : (ofSnapshot snapshot).WellFormed := by
  have hfold : ∀ (streams : List (StreamKey × OffsetMap)) (cache : CursorCache),
      cache.WellFormed → (streams.foldl putStream cache).WellFormed := by
    intro streams
    induction streams with
    | nil => exact fun _ h => h
    | cons entry rest ih =>
      intro cache h
      refine ih _ ((h.forget entry.1).open ?_ entry.2)
      intro e he
      -- The stream was forgotten just before, so it is new.
      have hne : decide (e.1 ≠ entry.1) = true := (List.mem_filter.mp he).2
      exact Ne.symm (of_decide_eq_true hne)
  exact hfold snapshot.streams .empty wellFormed_empty

/-- The handle holds the generation that its stream has now. -/
def IsCurrent (cache : CursorCache) (handle : Handle) : Prop :=
  cache.live.lookup handle.key = some handle.generation

theorem isCurrent_hold (cache : CursorCache) (key : StreamKey) :
    (cache.hold key).2.IsCurrent (cache.hold key).1 := by
  unfold CursorCache.hold
  split
  · next hsome => exact hsome
  · simp [IsCurrent]

@[simp] theorem key_hold (cache : CursorCache) (key : StreamKey) :
    (cache.hold key).1.key = key := by
  unfold hold
  split <;> rfl

theorem IsCurrent.hold (h : cache.IsCurrent handle) : cache.hold handle.key = (handle, cache) := by
  have hlookup : cache.live.lookup handle.key = some handle.generation := h
  unfold CursorCache.hold
  rw [hlookup]

theorem IsCurrent.record (h : cache.IsCurrent handle) (other : Handle) (offset : UInt64)
    (point : ResumePoint) : (cache.record other offset point).IsCurrent handle := h

theorem IsCurrent.lookup (h : cache.IsCurrent handle) (offset : UInt64) :
    cache.lookup handle offset = cache.get? handle.key offset := by
  rw [get?, show cache.live.lookup handle.key = _ from h]
  rfl

/-- A new generation has no offsets, and the others keep theirs. -/
@[simp] theorem offsets_hold (cache : CursorCache) (key : StreamKey) (generation : Nat) :
    (cache.hold key).2.offsets generation = cache.offsets generation := by
  unfold hold
  split
  · rfl
  · -- No generation but the new one changes, and that one had no offsets before either.
    rcases Nat.lt_trichotomy generation cache.generations.length with hlt | rfl | hgt
    · simp [offsets, List.getElem?_append_left hlt]
    · simp [offsets]
    · have hlen : (cache.generations ++ [OffsetMap.empty]).length ≤ generation := by
        rw [List.length_append, List.length_singleton]
        exact hgt
      rw [offsets, offsets, List.getElem?_eq_none hlen, List.getElem?_eq_none (Nat.le_of_lt hgt)]

theorem get?_hold (cache : CursorCache) (key key' : StreamKey) (offset : UInt64) :
    (cache.hold key).2.get? key' offset = cache.get? key' offset := by
  simp only [get?, offsets_hold]
  unfold hold
  split
  · rfl
  · next hnone =>
    rw [lookup_cons_eq]
    by_cases hk : key' = key
    · have hnew : cache.offsets cache.generations.length = .empty := by simp [offsets]
      rw [if_pos hk, hk, hnone, Option.bind_some, hnew]
      rfl
    · rw [if_neg hk]

/-- A new generation has no offsets, so no snapshot shows it. -/
theorem snapshot_hold (cache : CursorCache) (key : StreamKey) :
    (cache.hold key).2.snapshot = cache.snapshot := by
  have hoffsets : (cache.hold key).2.offsets = cache.offsets := funext (cache.offsets_hold key)
  rw [snapshot, snapshot, hoffsets]
  unfold hold
  split
  · rfl
  · have hnew : cache.offsets cache.generations.length = .empty := by simp [offsets]
    simp only [List.map_cons, hnew]
    rfl

theorem offsets_record (h : handle.generation < cache.generations.length) (offset : UInt64)
    (point : ResumePoint) (generation : Nat) :
    (cache.record handle offset point).offsets generation =
      if generation = handle.generation then (cache.offsets generation).insert offset point
      else cache.offsets generation := by
  by_cases hg : generation = handle.generation
  · rw [if_pos hg, hg]
    simp [offsets, CursorCache.record, List.getElem?_eq_getElem h]
  · rw [if_neg hg]
    simp [offsets, CursorCache.record, Ne.symm hg]

/-- A record is found at its offset, and leaves those at other offsets. -/
theorem IsCurrent.get?_record (h : cache.IsCurrent handle) (hw : cache.WellFormed)
    (offset o : UInt64) (point : ResumePoint) :
    (cache.record handle offset point).get? handle.key o =
      if o = offset then some point else cache.get? handle.key o := by
  -- The held generation was opened, so the record does not get lost.
  have hlt := hw.opened _ (mem_of_lookup h)
  rw [← (h.record handle offset point).lookup, ← h.lookup, CursorCache.lookup, offsets_record hlt,
    if_pos rfl, OffsetMap.get?_insert]
  rfl

end CursorCache

end RunLog
