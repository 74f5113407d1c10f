import RunLog.Proofs.Snapshots

/-! A cursor cache against the journal of what was done with it. The journal knows of no maps: it
counts how often each stream was forgotten, and notes each record with the count at which its writer
took hold of the stream. `Naming` ties the places of the maps to these counts. Main statements: a cache
answers what was recorded last in the generation that is asked for, and what is done with one generation
shows in no other. -/

namespace RunLog

/-! ### Places and their names -/

theorem getElem?_concat_eq_some_iff {α : Type} {xs : List α} {a b : α} {i : Nat} :
    (xs ++ [a])[i]? = some b ↔ xs[i]? = some b ∨ i = xs.length ∧ a = b := by
  rcases Nat.lt_trichotomy i xs.length with hlt | rfl | hgt
  · simp [List.getElem?_append_left hlt, Nat.ne_of_lt hlt]
  · simp
  · have hlong : (xs ++ [a]).length ≤ i := by
      rw [List.length_append, List.length_singleton]
      exact hgt
    simp [List.getElem?_eq_none hlong, List.getElem?_eq_none (Nat.le_of_lt hgt), Nat.ne_of_gt hgt]

theorem getElem?_of_prefix {α : Type} {xs ys : List α} {a : α} {i : Nat} (h : xs <+: ys)
    (hi : xs[i]? = some a) : ys[i]? = some a := by
  obtain ⟨rest, rfl⟩ := h
  rw [List.getElem?_append_left (List.getElem?_eq_some_iff.mp hi).1]
  exact hi

/-! What is held goes by its place, and holders go by the name of that place. -/

section Held

variable {α β : Type} {xs : List β} {place : β → Nat} {holders names : List α} {i : Nat}
  (h : xs.map (fun x => names[place x]?) = holders.map some)

include h

theorem length_of_names : xs.length = holders.length := by
  have hlength := congrArg List.length h
  rw [List.length_map, List.length_map] at hlength
  exact hlength

theorem name_at (i : Nat) : xs[i]?.map (fun x => names[place x]?) = holders[i]?.map some := by
  rw [← List.getElem?_map, ← List.getElem?_map, h]

/-- Under the name of a holder is a place that is held. -/
theorem held_of_name {name : α} (hname : holders[i]? = some name) :
    ∃ x, xs[i]? = some x ∧ names[place x]? = some name := by
  have hat := name_at h i
  rw [hname, Option.map_some, Option.map_eq_some_iff] at hat
  exact hat

theorem name_of_held {x : β} (hx : xs[i]? = some x) :
    ∃ name, holders[i]? = some name ∧ names[place x]? = some name := by
  have hat := name_at h i
  rw [hx, Option.map_some, eq_comm, Option.map_eq_some_iff] at hat
  obtain ⟨name, hname, heq⟩ := hat
  exact ⟨name, hname, heq.symm⟩

theorem holders_eq_none (hx : xs[i]? = none) : holders[i]? = none := by
  rw [List.getElem?_eq_none_iff, length_of_names h] at hx
  exact List.getElem?_eq_none hx

theorem mem_names_of_mem_holders {name : α} (hname : name ∈ holders) : name ∈ names := by
  obtain ⟨i, hi⟩ := List.mem_iff_getElem?.mp hname
  obtain ⟨x, -, hat⟩ := held_of_name h hi
  exact List.mem_of_getElem? hat

/-- What is held keeps its name when further places are named. -/
theorem names_of_prefix {names' : List α} (hmore : names <+: names') :
    xs.map (fun x => names'[place x]?) = holders.map some := by
  rw [← h]
  apply List.map_congr_left
  intro x hx
  obtain ⟨i, hi⟩ := List.mem_iff_getElem?.mp hx
  obtain ⟨name, -, hname⟩ := name_of_held h hi
  rw [hname]
  exact getElem?_of_prefix hmore hname

/-- Another holder gets the name of the place that it is given. -/
theorem names_concat {names' : List α} {x : β} {name : α} (hmore : names <+: names')
    (hx : names'[place x]? = some name) :
    (xs ++ [x]).map (fun x => names'[place x]?) = (holders ++ [name]).map some := by
  rw [List.map_append, List.map_append, names_of_prefix h hmore, List.map_singleton,
    List.map_singleton, hx]

end Held

/-- Things are opened for keys and dropped again. Each one opened has a place, and its name is the key
with the number of times that the key had been dropped before. -/
structure Naming {κ : Type} [DecidableEq κ] (live : List (κ × Nat)) (gone : List κ)
    (names : List (κ × Nat)) : Prop where
  keys : live.Pairwise fun a b => a.1 ≠ b.1
  nodup : names.Nodup
  live_iff : ∀ key place, live.lookup key = some place ↔ names[place]? = some (key, gone.count key)
  past : ∀ name ∈ names, name.2 ≤ gone.count name.1

namespace Naming

variable {κ : Type} [DecidableEq κ] {live : List (κ × Nat)} {gone : List κ} {names : List (κ × Nat)}
  {key : κ}

theorem empty : Naming ([] : List (κ × Nat)) [] [] where
  keys := .nil
  nodup := List.nodup_nil
  live_iff := fun _ _ => iff_of_false nofun nofun
  past := nofun

theorem isSome_iff (h : Naming live gone names) (key : κ) :
    (live.lookup key).isSome ↔ (key, gone.count key) ∈ names := by
  rw [Option.isSome_iff_exists, List.mem_iff_getElem?]
  exact exists_congr fun place => h.live_iff key place

theorem not_mem (h : Naming live gone names) (hnone : live.lookup key = none) :
    (key, gone.count key) ∉ names := by
  intro hmem
  rw [← h.isSome_iff, hnone] at hmem
  exact Bool.false_ne_true hmem

theorem place_eq (h : Naming live gone names) {name : κ × Nat} {place place' : Nat}
    (hplace : names[place]? = some name) (hplace' : names[place']? = some name) : place = place' := by
  have hlt := (List.getElem?_eq_some_iff.mp hplace).1
  exact (List.getElem?_inj hlt h.nodup).mp (hplace.trans hplace'.symm)

theorem opened (h : Naming live gone names) (hnone : live.lookup key = none) :
    Naming ((key, names.length) :: live) gone (names ++ [(key, gone.count key)]) where
  keys := List.pairwise_cons.mpr ⟨ne_of_lookup_eq_none hnone, h.keys⟩
  nodup := by
    have hnew := h.not_mem hnone
    refine List.nodup_append.mpr ⟨h.nodup, List.pairwise_singleton _ _, fun a ha b hb => ?_⟩
    rw [List.mem_singleton.mp hb]
    rintro rfl
    exact hnew ha
  live_iff := by
    intro k place
    rw [lookup_cons_eq, getElem?_concat_eq_some_iff]
    by_cases hk : k = key
    · subst hk
      have hold : names[place]? ≠ some (k, gone.count k) := fun hold =>
        h.not_mem hnone (List.mem_of_getElem? hold)
      rw [if_pos rfl, Option.some_inj, or_iff_right hold, and_iff_left rfl]
      exact eq_comm
    · have hnew : ¬ (place = names.length ∧ (key, gone.count key) = (k, gone.count k)) :=
        fun hnew => hk (congrArg Prod.fst hnew.2).symm
      rw [if_neg hk, or_iff_left hnew]
      exact h.live_iff k place
  past := by
    intro name hname
    rcases List.mem_append.mp hname with hname | hname
    · exact h.past name hname
    · obtain rfl := List.mem_singleton.mp hname
      exact Nat.le_refl _

/-- What is dropped keeps its place, but its name is no longer the current one of its key. -/
theorem dropped (h : Naming live gone names) (key : κ) :
    Naming (live.filter fun e => e.1 ≠ key) (key :: gone) names where
  keys := h.keys.sublist List.filter_sublist
  nodup := h.nodup
  live_iff := by
    intro k place
    rw [lookup_filter_ne]
    by_cases hk : k = key
    · subst hk
      rw [if_pos rfl, List.count_cons_self]
      refine iff_of_false nofun fun hplace => ?_
      -- No name bears a count that its key has not reached yet.
      have hpast : gone.count k + 1 ≤ gone.count k := h.past _ (List.mem_of_getElem? hplace)
      omega
    · rw [if_neg hk, List.count_cons_of_ne (Ne.symm hk)]
      exact h.live_iff k place
  past := by
    intro name hname
    have hpast := h.past name hname
    exact Nat.le_trans hpast List.count_le_count_cons

end Naming

/-! ### The journal -/

/-- What changes a cache. Handles go by number, in the order in which they were taken. -/
inductive CacheCall where
  | put (key : StreamKey) (offset : UInt64) (point : ResumePoint)
  | forget (key : StreamKey)
  | hold (key : StreamKey)
  | record (holder : Nat) (offset : UInt64) (point : ResumePoint)

/-- A cache and the handles that were taken of it. -/
structure CacheDesk where
  cache : CursorCache := .empty
  handles : List Handle := []

namespace CacheDesk

def call (desk : CacheDesk) : CacheCall → CacheDesk
  | .put key offset point => { desk with cache := desk.cache.put key offset point }
  | .forget key => { desk with cache := (desk.cache.forget key).2 }
  | .hold key =>
    let (handle, cache) := desk.cache.hold key
    { cache, handles := desk.handles ++ [handle] }
  | .record holder offset point => match desk.handles[holder]? with
    | some handle => { desk with cache := desk.cache.record handle offset point }
    | none => desk

def after (calls : List CacheCall) : CacheDesk := calls.foldl call {}

/-- What a reader finds through the handle with the given number. -/
def lookup (desk : CacheDesk) (holder : Nat) (offset : UInt64) : Option ResumePoint :=
  desk.handles[holder]?.bind fun handle => desk.cache.lookup handle offset

end CacheDesk

/-- A point that was recorded for a stream in one of its generations. -/
structure Entry where
  key : StreamKey
  generation : Nat
  offset : UInt64
  point : ResumePoint
deriving DecidableEq

structure Journal where
  /-- The streams that were forgotten, once for each time. -/
  forgotten : List StreamKey := []
  /-- The stream of each handle and the generation in which it was taken. -/
  holders : List (StreamKey × Nat) := []
  /-- What was recorded, the latest first. -/
  entries : List Entry := []

namespace Journal

/-- The number of times that a stream was forgotten. -/
def generation (j : Journal) (key : StreamKey) : Nat := j.forgotten.count key

def write (j : Journal) (name : StreamKey × Nat) (offset : UInt64) (point : ResumePoint) : Journal :=
  { j with entries := ⟨name.1, name.2, offset, point⟩ :: j.entries }

def target? (j : Journal) : CacheCall → Option (StreamKey × Nat)
  | .put key _ _ => some (key, j.generation key)
  | .record holder _ _ => j.holders[holder]?
  | _ => none

def note (j : Journal) : CacheCall → Journal
  | .put key offset point => j.write (key, j.generation key) offset point
  | .forget key => { j with forgotten := key :: j.forgotten }
  | .hold key => { j with holders := j.holders ++ [(key, j.generation key)] }
  | .record holder offset point => match j.holders[holder]? with
    | some name => j.write name offset point
    | none => j

def ofCalls (calls : List CacheCall) : Journal := calls.foldl note {}

/-- The point that was recorded last at an offset in a generation of a stream. -/
def latest? (j : Journal) (name : StreamKey × Nat) (offset : UInt64) : Option ResumePoint :=
  (j.entries.find? fun e => (e.key, e.generation) = name ∧ e.offset = offset).map Entry.point

def IsWritten (j : Journal) (name : StreamKey × Nat) : Prop :=
  ∃ e ∈ j.entries, (e.key, e.generation) = name

variable {j : Journal} {name name' : StreamKey × Nat} {offset o : UInt64} {point : ResumePoint}

theorem latest?_write : (j.write name offset point).latest? name' o =
    if name' = name ∧ o = offset then some point else j.latest? name' o := by
  rw [latest?, write, List.find?_cons]
  by_cases h : name' = name ∧ o = offset
  · obtain ⟨rfl, rfl⟩ := h
    simp
  · have hno : ¬ (name = name' ∧ offset = o) := fun hyes => h ⟨hyes.1.symm, hyes.2.symm⟩
    simp [h, hno, latest?]

theorem isWritten_iff : j.IsWritten name ↔ ∃ offset point, j.latest? name offset = some point := by
  constructor
  · rintro ⟨e, he, hname⟩
    refine ⟨e.offset, Option.isSome_iff_exists.mp ?_⟩
    rw [latest?, Option.isSome_map, List.find?_isSome]
    exact ⟨e, he, decide_eq_true ⟨hname, rfl⟩⟩
  · rintro ⟨offset, point, hlatest⟩
    obtain ⟨e, he, -⟩ := Option.map_eq_some_iff.mp hlatest
    have hfound := List.find?_some he
    exact ⟨e, List.mem_of_find?_eq_some he, (of_decide_eq_true hfound).1⟩

theorem latest?_of_not_isWritten (h : ¬ j.IsWritten name) (offset : UInt64) :
    j.latest? name offset = none := by
  cases hlatest : j.latest? name offset with
  | none => rfl
  | some point => exact absurd (isWritten_iff.mpr ⟨offset, point, hlatest⟩) h

theorem IsWritten.write (h : j.IsWritten name) : (j.write name' offset point).IsWritten name := by
  obtain ⟨e, he, hname⟩ := h
  exact ⟨e, List.mem_cons_of_mem _ he, hname⟩

theorem isWritten_write : (j.write name offset point).IsWritten name :=
  ⟨_, List.mem_cons_self, rfl⟩

/-- A call leaves every generation alone that it does not write to. -/
theorem latest?_note {call : CacheCall} (h : j.target? call ≠ some name) (offset : UInt64) :
    (j.note call).latest? name offset = j.latest? name offset := by
  cases call with
  | put key o point =>
    have hne : ¬ (name = (key, j.generation key) ∧ offset = o) := fun hyes =>
      h (congrArg some hyes.1.symm)
    rw [note, latest?_write, if_neg hne]
  | forget key => rfl
  | hold key => rfl
  | record holder o point =>
    rw [note]
    split
    · next other hholder =>
      have hne : ¬ (name = other ∧ offset = o) := fun hyes =>
        h (hholder.trans (congrArg some hyes.1.symm))
      rw [latest?_write, if_neg hne]
    · rfl

end Journal

/-! ### The cache behind the journal -/

namespace CursorCache

variable {cache : CursorCache} {j : Journal} {names : List (StreamKey × Nat)} {name : StreamKey × Nat}
  {key : StreamKey}

/-- The maps of a cache go by names, and each one holds what the journal has under its name. -/
structure Keeps (cache : CursorCache) (j : Journal) (names : List (StreamKey × Nat)) : Prop where
  orderly : cache.Orderly
  naming : Naming cache.live j.forgotten names
  length : names.length = cache.generations.length
  offsets : ∀ place name, names[place]? = some name →
    ∀ offset, (cache.offsets place).get? offset = j.latest? name offset
  written : ∀ name, j.IsWritten name → name ∈ names

theorem keeps_empty : empty.Keeps {} [] where
  orderly := orderly_empty
  naming := .empty
  length := rfl
  offsets := nofun
  written := fun _ ⟨_, he, _⟩ => nomatch he

theorem Keeps.get? (h : cache.Keeps j names) (key : StreamKey) (offset : UInt64) :
    cache.get? key offset = j.latest? (key, j.generation key) offset := by
  rw [CursorCache.get?]
  cases hlive : cache.live.lookup key with
  | some place =>
    have hname := (h.naming.live_iff key place).mp hlive
    exact h.offsets place _ hname offset
  | none =>
    have hunwritten : ¬ j.IsWritten (key, j.generation key) := fun hwritten =>
      h.naming.not_mem hlive (h.written _ hwritten)
    exact (Journal.latest?_of_not_isWritten hunwritten offset).symm

/-- A hold has the current name of its stream, be it new or not. -/
theorem Keeps.hold (h : cache.Keeps j names) (key : StreamKey) :
    ∃ names', (cache.hold key).2.Keeps j names' ∧ names <+: names' ∧
      names'[(cache.hold key).1.generation]? = some (key, j.generation key) ∧
      ∀ name ∈ names', name ∈ names ∨ name = (key, j.generation key) := by
  cases hlive : cache.live.lookup key with
  | some place =>
    have hhold : cache.hold key = (⟨key, place⟩, cache) := by
      rw [CursorCache.hold, hlive]
    rw [hhold]
    exact ⟨names, h, List.prefix_refl _, (h.naming.live_iff key place).mp hlive, fun _ => .inl⟩
  | none =>
    have horderly := h.orderly.hold key
    have hoffsets := cache.offsets_hold key
    have hhold : cache.hold key = (⟨key, cache.generations.length⟩,
        ⟨cache.generations ++ [.empty], (key, cache.generations.length) :: cache.live⟩) := by
      rw [CursorCache.hold, hlive]
    rw [hhold] at horderly hoffsets ⊢
    refine ⟨names ++ [(key, j.generation key)], ⟨horderly, ?_, ?_, ?_, ?_⟩, List.prefix_append _ _,
      ?_, ?_⟩
    · rw [← h.length]
      exact h.naming.opened hlive
    · rw [List.length_append, List.length_append, h.length]
      rfl
    · intro place name hname offset
      rw [hoffsets]
      rcases getElem?_concat_eq_some_iff.mp hname with hold | ⟨rfl, rfl⟩
      · exact h.offsets place name hold offset
      · -- The place is new, so nothing was recorded under its name.
        have hunwritten : ¬ j.IsWritten (key, j.generation key) := fun hwritten =>
          h.naming.not_mem hlive (h.written _ hwritten)
        rw [Journal.latest?_of_not_isWritten hunwritten, CursorCache.offsets, h.length,
          List.getElem?_eq_none (Nat.le_refl _)]
        rfl
    · exact fun name hwritten => List.mem_append_left _ (h.written name hwritten)
    · rw [← h.length]
      exact List.getElem?_concat_length
    · intro name hname
      exact (List.mem_append.mp hname).imp_right List.mem_singleton.mp

theorem Keeps.record (h : cache.Keeps j names) {handle : Handle}
    (hname : names[handle.generation]? = some name) (offset : UInt64) (point : ResumePoint) :
    (cache.record handle offset point).Keeps (j.write name offset point) names where
  orderly := h.orderly.record handle offset point
  naming := h.naming
  length := by rw [CursorCache.record, List.length_modify, h.length]
  offsets := by
    intro place name' hname' o
    have hlt : handle.generation < cache.generations.length := by
      rw [← h.length]
      exact (List.getElem?_eq_some_iff.mp hname).1
    -- Names are unique, so to write at the place is to write under the name.
    have hplace : place = handle.generation ↔ name' = name := by
      constructor
      · rintro rfl
        exact Option.some.inj (hname'.symm.trans hname)
      · rintro rfl
        exact h.naming.place_eq hname' hname
    have hbefore := h.offsets place name' hname' o
    rw [offsets_record hlt, Journal.latest?_write, ← hbefore]
    by_cases heq : name' = name
    · rw [if_pos (hplace.mpr heq), OffsetMap.get?_insert]
      simp only [heq, true_and]
    · rw [if_neg (mt hplace.mp heq), if_neg (mt And.left heq)]
  written := by
    rintro name' ⟨e, he, rfl⟩
    rcases List.mem_cons.mp he with rfl | he
    · exact List.mem_of_getElem? hname
    · exact h.written _ ⟨e, he, rfl⟩

theorem Keeps.forget (h : cache.Keeps j names) (key : StreamKey) :
    (cache.forget key).2.Keeps { j with forgotten := key :: j.forgotten } names where
  orderly := h.orderly.forget key
  naming := h.naming.dropped key
  length := h.length
  offsets := h.offsets
  written := h.written

end CursorCache

namespace CacheDesk

variable {desk : CacheDesk} {j : Journal} {names : List (StreamKey × Nat)}

/-- The cache keeps what the journal says, the handles have the names of their holders, and every name
belongs to a holder or was written to. -/
structure Follows (desk : CacheDesk) (j : Journal) (names : List (StreamKey × Nat)) : Prop where
  keeps : desk.cache.Keeps j names
  holders : desk.handles.map (fun handle => names[handle.generation]?) = j.holders.map some
  used : ∀ name ∈ names, name ∈ j.holders ∨ j.IsWritten name

theorem Follows.call (h : desk.Follows j names) (call : CacheCall) :
    ∃ names', (desk.call call).Follows (j.note call) names' := by
  cases call with
  | put key offset point =>
    obtain ⟨names', hkeeps, hmore, hname, hnew⟩ := h.keeps.hold key
    refine ⟨names', hkeeps.record hname offset point, names_of_prefix h.holders hmore, ?_⟩
    intro name hmem
    rcases hnew name hmem with hold | rfl
    · exact (h.used name hold).imp_right Journal.IsWritten.write
    · exact .inr Journal.isWritten_write
  | forget key => exact ⟨names, h.keeps.forget key, h.holders, h.used⟩
  | hold key =>
    obtain ⟨names', hkeeps, hmore, hname, hnew⟩ := h.keeps.hold key
    refine ⟨names', ⟨hkeeps.orderly, hkeeps.naming, hkeeps.length, hkeeps.offsets, hkeeps.written⟩,
      ?_, ?_⟩
    · exact names_concat h.holders hmore hname
    · intro name hmem
      rcases hnew name hmem with hold | rfl
      · exact (h.used name hold).imp_left (List.mem_append_left _)
      · exact .inl List.mem_concat_self
  | record holder offset point =>
    rw [CacheDesk.call, Journal.note]
    cases hhandle : desk.handles[holder]? with
    | none =>
      rw [holders_eq_none h.holders hhandle]
      exact ⟨names, h⟩
    | some handle =>
      obtain ⟨name, hjournal, hname⟩ := name_of_held h.holders hhandle
      rw [hjournal]
      refine ⟨names, h.keeps.record hname offset point, h.holders, fun other hmem => ?_⟩
      exact (h.used other hmem).imp_right Journal.IsWritten.write

theorem follows_after (calls : List CacheCall) :
    ∃ names, (after calls).Follows (Journal.ofCalls calls) names := by
  -- The names grow with the calls, so they are no part of the relation that is kept.
  apply List.foldl_rel (r := fun desk j => ∃ names, Follows desk j names)
  · exact ⟨[], CursorCache.keeps_empty, rfl, nofun⟩
  · rintro call - desk j ⟨names, h⟩
    exact h.call call

theorem Follows.mem_names_iff (h : desk.Follows j names) (name : StreamKey × Nat) :
    name ∈ names ↔ name ∈ j.holders ∨ j.IsWritten name := by
  refine ⟨h.used name, ?_⟩
  rintro (hholder | hwritten)
  · exact mem_names_of_mem_holders h.holders hholder
  · exact h.keeps.written name hwritten

end CacheDesk

/-- A cache and its handles answer as the journal says: each stream the last point of its current
generation, each handle that of its own, and the snapshot shows just the streams with a point in their
current generation. -/
structure Journal.Governs (j : Journal) (desk : CacheDesk) : Prop where
  get : ∀ key offset, desk.cache.get? key offset = j.latest? (key, j.generation key) offset
  holders : desk.handles.length = j.holders.length
  lookup : ∀ (holder : Nat) name, j.holders[holder]? = some name →
    ∀ offset, desk.lookup holder offset = j.latest? name offset
  forget : ∀ key, (desk.cache.forget key).1 = true ↔
    (key, j.generation key) ∈ j.holders ∨ j.IsWritten (key, j.generation key)
  shown : ∀ key, key ∈ desk.cache.snapshot.streams.map Prod.fst ↔ j.IsWritten (key, j.generation key)
  shownOnce : (desk.cache.snapshot.streams.map Prod.fst).Nodup
  shownOffsets : ∀ e ∈ desk.cache.snapshot.streams,
    ∀ offset, e.2.get? offset = j.latest? (e.1, j.generation e.1) offset
  size : desk.cache.size = desk.cache.snapshot.streams.length

namespace CacheDesk

variable {desk : CacheDesk} {j : Journal} {names : List (StreamKey × Nat)}

theorem Follows.governs (h : desk.Follows j names) : j.Governs desk where
  get := h.keeps.get?
  holders := length_of_names h.holders
  lookup := by
    intro holder name hholder offset
    obtain ⟨handle, hhandle, hname⟩ := held_of_name h.holders hholder
    rw [CacheDesk.lookup, hhandle]
    exact h.keeps.offsets handle.generation name hname offset
  forget := fun key => (h.keeps.naming.isSome_iff key).trans (h.mem_names_iff _)
  shown := by
    intro key
    have hshown : key ∈ desk.cache.snapshot.streams.map Prod.fst ↔
        ∃ map, (key, map) ∈ desk.cache.snapshot.streams := by
      rw [List.mem_map, Prod.exists]
      constructor
      · rintro ⟨key, map, hmem, rfl⟩
        exact ⟨map, hmem⟩
      · rintro ⟨map, hmem⟩
        exact ⟨key, map, hmem, rfl⟩
    rw [hshown, h.keeps.orderly.shown_iff, Journal.isWritten_iff]
    simp only [h.keeps.get?]
  shownOnce := List.pairwise_map.mpr h.keeps.orderly.wellFormed.snapshot.2.keys
  shownOffsets := by
    intro e he offset
    obtain ⟨-, -, hget⟩ := h.keeps.orderly.mem_snapshot_iff.mp he
    rw [hget, h.keeps.get?]
  size := h.keeps.orderly.wellFormed.length_snapshot.symm

theorem governs_after (calls : List CacheCall) : (Journal.ofCalls calls).Governs (after calls) := by
  obtain ⟨names, h⟩ := follows_after calls
  exact h.governs

theorem after_concat (calls : List CacheCall) (call : CacheCall) :
    after (calls ++ [call]) = (after calls).call call := by
  rw [after, List.foldl_append]
  rfl

end CacheDesk

namespace Journal

variable {j : Journal} {call : CacheCall} {key : StreamKey} {name : StreamKey × Nat}

theorem generation_note (h : call ≠ .forget key) : (j.note call).generation key = j.generation key := by
  cases call with
  | put key' offset point => rfl
  | forget key' =>
    have hne : key' ≠ key := fun heq => h (congrArg CacheCall.forget heq)
    exact List.count_cons_of_ne hne
  | hold key' => rfl
  | record holder offset point =>
    rw [note]
    split <;> rfl

theorem holders_note {holder : Nat} (h : j.holders[holder]? = some name) :
    (j.note call).holders[holder]? = some name := by
  cases call with
  | put key offset point => exact h
  | forget key => exact h
  | hold key => exact getElem?_of_prefix (List.prefix_append _ _) h
  | record other offset point =>
    rw [note]
    split <;> exact h

/-- What a call leaves as it was: what is answered for the streams that it neither forgets nor records
for, what is found through the handles of other generations than the one it writes to, and, if it
writes to a generation that was forgotten, all that is shown of the cache. -/
structure Isolates (j : Journal) (desk : CacheDesk) (call : CacheCall) : Prop where
  get : ∀ key, call ≠ .forget key → j.target? call ≠ some (key, j.generation key) →
    ∀ offset, (desk.call call).cache.get? key offset = desk.cache.get? key offset
  lookup : ∀ (holder : Nat) name, j.holders[holder]? = some name → j.target? call ≠ some name →
    ∀ offset, (desk.call call).lookup holder offset = desk.lookup holder offset
  shown : (∀ key, call ≠ .forget key ∧ j.target? call ≠ some (key, j.generation key)) →
    (desk.call call).cache.snapshot = desk.cache.snapshot ∧
      (desk.call call).cache.size = desk.cache.size

end Journal

namespace CacheDesk

theorem isolates_after (calls : List CacheCall) (call : CacheCall) :
    (Journal.ofCalls calls).Isolates (after calls) call := by
  obtain ⟨names, h⟩ := follows_after calls
  obtain ⟨names', h'⟩ := h.call call
  have hget : ∀ key, call ≠ .forget key →
      (Journal.ofCalls calls).target? call ≠ some (key, (Journal.ofCalls calls).generation key) →
      ∀ offset, ((after calls).call call).cache.get? key offset = (after calls).cache.get? key offset := by
    intro key hkey htarget offset
    rw [h'.governs.get, h.governs.get, Journal.generation_note hkey, Journal.latest?_note htarget]
  refine ⟨hget, ?_, ?_⟩
  · intro holder name hholder htarget offset
    rw [h'.governs.lookup holder name (Journal.holders_note hholder),
      h.governs.lookup holder name hholder, Journal.latest?_note htarget]
  · intro hall
    have hsnapshot : ((after calls).call call).cache.snapshot = (after calls).cache.snapshot :=
      h'.keeps.orderly.snapshot_eq h.keeps.orderly fun key offset =>
        hget key (hall key).1 (hall key).2 offset
    refine ⟨hsnapshot, ?_⟩
    rw [h'.governs.size, h.governs.size, hsnapshot]

/-- A handle that is older than a forget goes on with its own points, and the stream with others. -/
example : let key : StreamKey := ⟨"pipeline", 1, none⟩
    let desk := after [.hold key, .record 0 5 ⟨none, 1⟩, .forget key, .put key 5 ⟨none, 2⟩,
      .record 0 6 ⟨none, 3⟩]
    desk.lookup 0 5 = some ⟨none, 1⟩ ∧ desk.lookup 0 6 = some ⟨none, 3⟩ ∧
    desk.cache.get? key 5 = some ⟨none, 2⟩ ∧ desk.cache.get? key 6 = none := by
  decide

end CacheDesk

end RunLog
