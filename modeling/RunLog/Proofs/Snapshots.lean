import RunLog.Cursors.Snapshot
import RunLog.Proofs.Cursors

namespace RunLog

/-- Two lists with the same members, in one strict order, are the same. -/
theorem eq_of_strictly_ordered {α : Type} {before : α → α → Prop} {as bs : List α}
    (hasymm : ∀ a b, before a b → ¬ before b a) (ha : as.Pairwise before) (hb : bs.Pairwise before)
    (hmem : ∀ x, x ∈ as ↔ x ∈ bs) : as = bs := by
  have hnodup : ∀ {xs : List α}, xs.Pairwise before → xs.Nodup := by
    intro xs h
    refine h.imp fun {a b} hab heq => ?_
    subst heq
    exact hasymm a a hab hab
  -- A strict order repeats nothing, so the same members make the lists permutations of each other.
  have hperm : as.Perm bs := (List.perm_ext_iff_of_nodup (hnodup ha) (hnodup hb)).mpr hmem
  exact hperm.eq_of_pairwise (fun a b _ _ hab hba => absurd hba (hasymm a b hab)) ha hb

namespace OffsetMap

variable {map other : OffsetMap}

def Ascending (map : OffsetMap) : Prop := map.entries.Pairwise fun a b => a.1 < b.1

theorem ascending_empty : empty.Ascending := .nil

theorem mem_insertEntry {offset : UInt64} {point : ResumePoint}
    {entries : List (UInt64 × ResumePoint)} {e : UInt64 × ResumePoint}
    (h : e ∈ insertEntry offset point entries) : e = (offset, point) ∨ e ∈ entries := by
  induction entries with
  | nil => exact .inl (List.mem_singleton.mp h)
  | cons first rest ih =>
    obtain ⟨o, p⟩ := first
    unfold insertEntry at h
    split at h
    · exact List.mem_cons.mp h
    · split at h
      · exact (List.mem_cons.mp h).imp_right (List.mem_cons_of_mem _)
      · rcases List.mem_cons.mp h with rfl | h
        · exact .inr List.mem_cons_self
        · exact (ih h).imp_right (List.mem_cons_of_mem _)

theorem insertEntry_ascending {offset : UInt64} {point : ResumePoint}
    {entries : List (UInt64 × ResumePoint)} (h : entries.Pairwise fun a b => a.1 < b.1) :
    (insertEntry offset point entries).Pairwise fun a b => a.1 < b.1 := by
  induction entries with
  | nil => exact List.pairwise_singleton _ _
  | cons first rest ih =>
    obtain ⟨o, p⟩ := first
    obtain ⟨hfirst, hrest⟩ := List.pairwise_cons.mp h
    unfold insertEntry
    split
    · next hlt =>
      refine List.pairwise_cons.mpr ⟨fun e he => ?_, h⟩
      rcases List.mem_cons.mp he with rfl | he
      · exact hlt
      · exact UInt64.lt_trans hlt (hfirst e he)
    · next hle =>
      split
      · next heq =>
        subst heq
        exact List.pairwise_cons.mpr ⟨hfirst, hrest⟩
      · next hne =>
        have hlt : o < offset := UInt64.lt_of_le_of_ne (UInt64.not_lt.mp hle) (Ne.symm hne)
        refine List.pairwise_cons.mpr ⟨fun e he => ?_, ih hrest⟩
        rcases mem_insertEntry he with rfl | he
        · exact hlt
        · exact hfirst e he

theorem Ascending.insert (h : map.Ascending) (offset : UInt64) (point : ResumePoint) :
    (map.insert offset point).Ascending := insertEntry_ascending h

theorem Ascending.keys (h : map.Ascending) : map.entries.Pairwise fun a b => a.1 ≠ b.1 :=
  h.imp fun hlt => UInt64.ne_of_lt hlt

theorem Ascending.mem_entries_iff (h : map.Ascending) {offset : UInt64} {point : ResumePoint} :
    (offset, point) ∈ map.entries ↔ map.get? offset = some point :=
  ⟨lookup_of_mem h.keys, mem_of_lookup⟩

/-- Ordered maps that answer alike are the same. -/
theorem Ascending.ext (h : map.Ascending) (hother : other.Ascending)
    (hget : ∀ offset, map.get? offset = other.get? offset) : map = other := by
  have hasymm : ∀ a b : UInt64 × ResumePoint, a.1 < b.1 → ¬ b.1 < a.1 :=
    fun _ _ hab => UInt64.lt_asymm hab
  have hentries : map.entries = other.entries := by
    refine eq_of_strictly_ordered hasymm h hother fun ⟨offset, point⟩ => ?_
    rw [h.mem_entries_iff, hother.mem_entries_iff, hget]
  exact congrArg OffsetMap.mk hentries

theorem isEmpty_iff : map.isEmpty = true ↔ ∀ offset, map.get? offset = none := by
  obtain ⟨entries⟩ := map
  cases entries with
  | nil => exact iff_of_true rfl fun _ => rfl
  | cons e rest =>
    refine iff_of_false Bool.false_ne_true fun h => ?_
    have hfirst := h e.1
    rw [get?, lookup_cons_eq, if_pos rfl] at hfirst
    exact Option.some_ne_none _ hfirst

theorem get?_of_isEmpty (h : map.isEmpty = true) (offset : UInt64) : map.get? offset = none :=
  isEmpty_iff.mp h offset

theorem isEmpty_eq_false_iff : map.isEmpty = false ↔ ∃ offset point, map.get? offset = some point := by
  rw [← Bool.not_eq_true, isEmpty_iff, Classical.not_forall]
  exact exists_congr fun offset => Option.ne_none_iff_exists'

end OffsetMap

namespace StreamKey

/-- Keys are compared field by field. -/
theorem compare_eq : compare = compareLex (compareOn pipeline)
    (compareLex (compareOn run) (compareOn step)) := by
  funext a b
  obtain ⟨_, _, _ | _⟩ := a <;> obtain ⟨_, _, _ | _⟩ := b <;> rfl

instance : Std.TransCmp compare := by
  rw [compare_eq]
  infer_instance

instance : Std.LawfulEqCmp compare where
  eq_of_compare {a b} h := by
    rw [compare_eq] at h
    obtain ⟨hpipeline, h⟩ := compareLex_eq_eq.mp h
    obtain ⟨hrun, hstep⟩ := compareLex_eq_eq.mp h
    obtain ⟨pipeline, run, step⟩ := a
    obtain ⟨pipeline', run', step'⟩ := b
    obtain rfl : pipeline = pipeline' := Std.LawfulEqOrd.eq_of_compare hpipeline
    obtain rfl : run = run' := Std.LawfulEqOrd.eq_of_compare hrun
    obtain rfl : step = step' := Std.LawfulEqOrd.eq_of_compare hstep
    rfl

def Before (a b : StreamKey) : Prop := a.compare b = .lt

theorem Before.asymm {a b : StreamKey} (h : a.Before b) : ¬ b.Before a :=
  Std.OrientedCmp.not_lt_of_lt h

theorem Before.trans {a b c : StreamKey} (h : a.Before b) (h' : b.Before c) : a.Before c :=
  Std.TransCmp.lt_trans h h'

theorem Before.ne {a b : StreamKey} (h : a.Before b) : a ≠ b := by
  rintro rfl
  exact h.asymm h

theorem before_of_gt {a b : StreamKey} (h : a.compare b = .gt) : b.Before a :=
  Std.OrientedCmp.gt_iff_lt.mp h

theorem before_of_not_gt {a b : StreamKey} (h : a.compare b ≠ .gt) (hne : a ≠ b) : a.Before b := by
  unfold Before
  cases hcompare : a.compare b with
  | lt => rfl
  | eq => exact absurd (Std.LawfulEqCmp.eq_of_compare hcompare) hne
  | gt => exact absurd hcompare h

end StreamKey

namespace CursorSnapshot

variable {entry : StreamKey × OffsetMap} {streams : List (StreamKey × OffsetMap)}

def Ordered (streams : List (StreamKey × OffsetMap)) : Prop :=
  streams.Pairwise fun a b => a.1.Before b.1

theorem Ordered.keys (h : Ordered streams) : streams.Pairwise fun a b => a.1 ≠ b.1 :=
  h.imp StreamKey.Before.ne

theorem insertStream_perm (entry : StreamKey × OffsetMap) (streams : List (StreamKey × OffsetMap)) :
    (insertStream entry streams).Perm (entry :: streams) := by
  induction streams with
  | nil => exact .refl _
  | cons first rest ih =>
    unfold insertStream
    split
    · exact (ih.cons first).trans (.swap entry first rest)
    · exact .refl _

theorem Ordered.insertStream (h : Ordered streams) (hnew : ∀ e ∈ streams, entry.1 ≠ e.1) :
    Ordered (insertStream entry streams) := by
  induction streams with
  | nil => exact List.pairwise_singleton _ _
  | cons first rest ih =>
    obtain ⟨hfirst, hrest⟩ := List.pairwise_cons.mp h
    unfold CursorSnapshot.insertStream
    split
    · next hgt =>
      have hothers := ih hrest fun e he => hnew e (List.mem_cons_of_mem _ he)
      refine List.pairwise_cons.mpr ⟨fun e he => ?_, hothers⟩
      rcases List.mem_cons.mp ((insertStream_perm entry rest).mem_iff.mp he) with rfl | he
      · exact StreamKey.before_of_gt hgt
      · exact hfirst e he
    · next hle =>
      have hbefore := StreamKey.before_of_not_gt hle (hnew first List.mem_cons_self)
      refine List.pairwise_cons.mpr ⟨fun e he => ?_, h⟩
      rcases List.mem_cons.mp he with rfl | he
      · exact hbefore
      · exact hbefore.trans (hfirst e he)

/-- Sorting streams with keys of their own keeps them all and puts them in order. -/
theorem sorted (hkeys : streams.Pairwise fun a b => a.1 ≠ b.1) :
    (streams.foldr insertStream []).Perm streams ∧ Ordered (streams.foldr insertStream []) := by
  induction streams with
  | nil => exact ⟨.refl _, .nil⟩
  | cons entry rest ih =>
    obtain ⟨hnew, hrest⟩ := List.pairwise_cons.mp hkeys
    obtain ⟨hperm, hordered⟩ := ih hrest
    refine ⟨(insertStream_perm entry _).trans (hperm.cons entry), hordered.insertStream ?_⟩
    intro e he
    exact hnew e (hperm.mem_iff.mp he)

end CursorSnapshot

namespace CursorCache

variable {cache other : CursorCache} {key : StreamKey} {map : OffsetMap}

/-- The streams that a cache knows, with their offsets. -/
def known (cache : CursorCache) : List (StreamKey × OffsetMap) :=
  cache.live.map fun e => (e.1, cache.offsets e.2)

theorem WellFormed.snapshot (h : cache.WellFormed) :
    cache.snapshot.streams.Perm (cache.known.filter fun e => !e.2.isEmpty) ∧
      CursorSnapshot.Ordered cache.snapshot.streams := by
  apply CursorSnapshot.sorted
  apply List.Pairwise.filter
  exact List.pairwise_map.mpr h.keys

/-- A snapshot shows a stream with its offsets if it has some. -/
theorem WellFormed.mem_snapshot (h : cache.WellFormed) : (key, map) ∈ cache.snapshot.streams ↔
    (∃ generation, cache.live.lookup key = some generation ∧ cache.offsets generation = map) ∧
      map.isEmpty = false := by
  rw [h.snapshot.1.mem_iff, List.mem_filter, Bool.not_eq_true', known, List.mem_map]
  apply and_congr_left'
  constructor
  · rintro ⟨⟨k, generation⟩, hmem, heq⟩
    obtain ⟨rfl, hmap⟩ := Prod.mk.inj heq
    exact ⟨generation, lookup_of_mem h.keys hmem, hmap⟩
  · rintro ⟨generation, hlookup, hmap⟩
    exact ⟨(key, generation), mem_of_lookup hlookup, congrArg (Prod.mk key) hmap⟩

theorem WellFormed.length_snapshot (h : cache.WellFormed) :
    cache.snapshot.streams.length = cache.size := by
  rw [h.snapshot.1.length_eq, known, List.filter_map, List.length_map]
  rfl

theorem WellFormed.lookup_snapshot (h : cache.WellFormed) (key : StreamKey) (offset : UInt64) :
    ((cache.snapshot.streams.lookup key).bind fun map => map.get? offset) = cache.get? key offset := by
  cases hshown : cache.snapshot.streams.lookup key with
  | some map =>
    obtain ⟨⟨generation, hlive, rfl⟩, -⟩ := h.mem_snapshot.mp (mem_of_lookup hshown)
    rw [get?, hlive]
    rfl
  | none =>
    -- A stream that is not shown has no offsets, or is not known at all.
    rw [get?, Option.bind_none, eq_comm, Option.bind_eq_none_iff]
    intro generation hlive
    apply OffsetMap.get?_of_isEmpty
    apply (Bool.not_eq_false _).mp
    intro hempty
    have hmem := h.mem_snapshot.mpr ⟨⟨generation, hlive, rfl⟩, hempty⟩
    rw [lookup_of_mem h.snapshot.2.keys hmem] at hshown
    exact Option.some_ne_none _ hshown

/-- A well-formed cache whose maps are all in order. -/
structure Orderly (cache : CursorCache) : Prop where
  wellFormed : cache.WellFormed
  ascending : ∀ map ∈ cache.generations, map.Ascending

theorem Orderly.offsets (h : cache.Orderly) (generation : Nat) :
    (cache.offsets generation).Ascending := by
  unfold CursorCache.offsets
  cases hget : cache.generations[generation]? with
  | none => exact OffsetMap.ascending_empty
  | some map => exact h.ascending map (List.mem_of_getElem? hget)

/-- A snapshot shows just those maps in order that have an entry and answer as the cache does. -/
theorem Orderly.mem_snapshot_iff (h : cache.Orderly) : (key, map) ∈ cache.snapshot.streams ↔
    map.Ascending ∧ map.isEmpty = false ∧ ∀ offset, map.get? offset = cache.get? key offset := by
  rw [h.wellFormed.mem_snapshot]
  constructor
  · rintro ⟨⟨generation, hlive, rfl⟩, hempty⟩
    refine ⟨h.offsets generation, hempty, fun offset => ?_⟩
    rw [get?, hlive]
    rfl
  · rintro ⟨hascending, hempty, hget⟩
    refine ⟨?_, hempty⟩
    obtain ⟨offset, point, hpoint⟩ := OffsetMap.isEmpty_eq_false_iff.mp hempty
    -- The cache answers at some offset, so it knows the stream.
    have hknown : (cache.live.lookup key).isSome := by
      rw [hget, get?] at hpoint
      obtain ⟨generation, hlive, -⟩ := Option.bind_eq_some_iff.mp hpoint
      exact Option.isSome_of_eq_some hlive
    obtain ⟨generation, hlive⟩ := Option.isSome_iff_exists.mp hknown
    refine ⟨generation, hlive, (h.offsets generation).ext hascending fun o => ?_⟩
    rw [hget, get?, hlive]
    rfl

theorem Orderly.shown_iff (h : cache.Orderly) : (∃ map, (key, map) ∈ cache.snapshot.streams) ↔
    ∃ offset point, cache.get? key offset = some point := by
  constructor
  · rintro ⟨map, hmem⟩
    obtain ⟨-, hsome, hget⟩ := h.mem_snapshot_iff.mp hmem
    obtain ⟨offset, point, hpoint⟩ := OffsetMap.isEmpty_eq_false_iff.mp hsome
    exact ⟨offset, point, (hget offset).symm.trans hpoint⟩
  · rintro ⟨offset, point, hpoint⟩
    rw [← h.wellFormed.lookup_snapshot] at hpoint
    obtain ⟨map, hshown, -⟩ := Option.bind_eq_some_iff.mp hpoint
    exact ⟨map, mem_of_lookup hshown⟩

/-- Caches that answer alike have one snapshot. -/
theorem Orderly.snapshot_eq (h : cache.Orderly) (hother : other.Orderly)
    (hget : ∀ key offset, cache.get? key offset = other.get? key offset) :
    cache.snapshot = other.snapshot := by
  have hasymm : ∀ a b : StreamKey × OffsetMap, a.1.Before b.1 → ¬ b.1.Before a.1 :=
    fun _ _ hab => hab.asymm
  have hmem : ∀ e, e ∈ cache.snapshot.streams ↔ e ∈ other.snapshot.streams := by
    intro e
    rw [h.mem_snapshot_iff, hother.mem_snapshot_iff]
    simp only [hget]
  exact congrArg CursorSnapshot.mk
    (eq_of_strictly_ordered hasymm h.wellFormed.snapshot.2 hother.wellFormed.snapshot.2 hmem)

theorem orderly_empty : empty.Orderly where
  wellFormed := wellFormed_empty
  ascending := nofun

theorem Orderly.hold (h : cache.Orderly) (key : StreamKey) : (cache.hold key).2.Orderly where
  wellFormed := h.wellFormed.hold key
  ascending := by
    unfold CursorCache.hold
    split
    · exact h.ascending
    · intro map hmap
      rcases List.mem_append.mp hmap with hmap | hmap
      · exact h.ascending map hmap
      · rw [List.mem_singleton.mp hmap]
        exact OffsetMap.ascending_empty

theorem Orderly.record (h : cache.Orderly) (handle : Handle) (offset : UInt64) (point : ResumePoint) :
    (cache.record handle offset point).Orderly where
  wellFormed := h.wellFormed.record handle offset point
  ascending := by
    intro map hmap
    obtain ⟨generation, hget⟩ := List.mem_iff_getElem?.mp hmap
    rw [CursorCache.record, List.getElem?_modify] at hget
    obtain ⟨before, hbefore, rfl⟩ := Option.map_eq_some_iff.mp hget
    have hascending := h.ascending before (List.mem_of_getElem? hbefore)
    split
    · exact hascending.insert offset point
    · exact hascending

theorem Orderly.put (h : cache.Orderly) (key : StreamKey) (offset : UInt64) (point : ResumePoint) :
    (cache.put key offset point).Orderly :=
  (h.hold key).record (cache.hold key).1 offset point

theorem Orderly.forget (h : cache.Orderly) (key : StreamKey) : (cache.forget key).2.Orderly where
  wellFormed := h.wellFormed.forget key
  ascending := h.ascending

theorem generations_ofSnapshot (snapshot : CursorSnapshot) :
    (ofSnapshot snapshot).generations = snapshot.streams.map Prod.snd := by
  have hfold : ∀ (streams : List (StreamKey × OffsetMap)) (cache : CursorCache),
      (streams.foldl putStream cache).generations = cache.generations ++ streams.map Prod.snd := by
    intro streams
    induction streams with
    | nil => exact fun cache => (List.append_nil _).symm
    | cons entry rest ih =>
      intro cache
      rw [List.foldl_cons, ih, List.map_cons, List.append_cons]
      rfl
  exact hfold snapshot.streams empty

theorem orderly_ofSnapshot {snapshot : CursorSnapshot}
    (h : ∀ e ∈ snapshot.streams, e.2.Ascending) : (ofSnapshot snapshot).Orderly where
  wellFormed := wellFormed_ofSnapshot snapshot
  ascending := by
    intro map hmap
    rw [generations_ofSnapshot] at hmap
    obtain ⟨e, he, rfl⟩ := List.mem_map.mp hmap
    exact h e he

theorem get?_forget (cache : CursorCache) (key key' : StreamKey) (offset : UInt64) :
    (cache.forget key).2.get? key' offset = if key' = key then none else cache.get? key' offset := by
  rw [get?, CursorCache.forget, lookup_filter_ne]
  split <;> rfl

theorem WellFormed.get?_putStream (h : cache.WellFormed) (entry : StreamKey × OffsetMap)
    (key : StreamKey) (offset : UInt64) :
    (cache.putStream entry).get? key offset =
      if key = entry.1 then entry.2.get? offset else cache.get? key offset := by
  rw [get?, putStream, lookup_cons_eq]
  by_cases hk : key = entry.1
  · rw [if_pos hk, if_pos hk, Option.bind_some]
    simp [CursorCache.offsets]
  · rw [if_neg hk, if_neg hk, CursorCache.forget, lookup_filter_ne, if_neg hk, get?]
    -- The generations that were there before are still at their places.
    cases hlive : cache.live.lookup key with
    | none => rfl
    | some generation =>
      have hlt := h.opened _ (mem_of_lookup hlive)
      rw [Option.bind_some, Option.bind_some]
      simp [CursorCache.offsets, List.getElem?_append_left hlt]

/-- A cache read back from a snapshot answers what the last entry of a stream says. -/
theorem get?_ofSnapshot (snapshot : CursorSnapshot) (key : StreamKey) (offset : UInt64) :
    (ofSnapshot snapshot).get? key offset =
      (snapshot.streams.reverse.lookup key).bind fun map => map.get? offset := by
  rw [ofSnapshot, List.foldl_eq_foldr_reverse]
  induction snapshot.streams.reverse with
  | nil => rfl
  | cons entry rest ih =>
    -- The streams behind this one were put into a cache of their own.
    have hrest : (rest.foldr (fun e cache => putStream cache e) empty).WellFormed := by
      have hback := wellFormed_ofSnapshot ⟨rest.reverse⟩
      rw [ofSnapshot, List.foldl_reverse] at hback
      exact hback
    rw [List.foldr_cons, hrest.get?_putStream, lookup_cons_eq, ih]
    split <;> rfl

theorem WellFormed.get?_ofSnapshot (h : cache.WellFormed) (key : StreamKey) (offset : UInt64) :
    (ofSnapshot cache.snapshot).get? key offset = cache.get? key offset := by
  have hkeys := h.snapshot.2.keys
  have hreverse : cache.snapshot.streams.reverse.Pairwise fun a b => a.1 ≠ b.1 :=
    List.pairwise_reverse.mpr (hkeys.imp Ne.symm)
  -- Each stream stands once, so its last entry is its first.
  have hlookup : cache.snapshot.streams.reverse.lookup key = cache.snapshot.streams.lookup key := by
    apply Option.ext
    intro map
    constructor
    · intro hshown
      exact lookup_of_mem hkeys (List.mem_reverse.mp (mem_of_lookup hshown))
    · intro hshown
      exact lookup_of_mem hreverse (List.mem_reverse.mpr (mem_of_lookup hshown))
  rw [CursorCache.get?_ofSnapshot, hlookup, h.lookup_snapshot]

theorem isSome_lookup_ofSnapshot (snapshot : CursorSnapshot) (key : StreamKey) :
    ((ofSnapshot snapshot).live.lookup key).isSome ↔ ∃ map, (key, map) ∈ snapshot.streams := by
  have hmem : (∃ map, (key, map) ∈ snapshot.streams) ↔
      ∃ map, (key, map) ∈ snapshot.streams.reverse :=
    exists_congr fun _ => List.mem_reverse.symm
  rw [hmem, ofSnapshot, List.foldl_eq_foldr_reverse]
  induction snapshot.streams.reverse with
  | nil => exact iff_of_false Bool.false_ne_true fun ⟨_, hmap⟩ => nomatch hmap
  | cons entry rest ih =>
    rw [List.foldr_cons, putStream, lookup_cons_eq]
    by_cases hk : key = entry.1
    · rw [if_pos hk]
      exact iff_of_true rfl ⟨entry.2, hk ▸ List.mem_cons_self⟩
    · rw [if_neg hk, CursorCache.forget, lookup_filter_ne, if_neg hk]
      refine ih.trans (exists_congr fun map => ?_)
      rw [List.mem_cons, or_iff_right fun heq => hk (congrArg Prod.fst heq)]

/-- A cache that is read back from the snapshot of another one knows the streams for which that one
answers something. -/
theorem Orderly.forget_ofSnapshot (h : cache.Orderly) (key : StreamKey) :
    ((ofSnapshot cache.snapshot).forget key).1 = true ↔
      ∃ offset point, cache.get? key offset = some point :=
  (isSome_lookup_ofSnapshot cache.snapshot key).trans h.shown_iff

end CursorCache

end RunLog
