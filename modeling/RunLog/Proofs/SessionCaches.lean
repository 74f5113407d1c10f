import RunLog.Cursors.Sessions
import RunLog.Proofs.Generations

/-! Caches by session token. Ending a session does to its token what forgetting does to a stream, so
`Naming` gives the places of the caches their names too. Main statement: whoever was given a session's
cache between two ends of it works with one cache, on which the calls of its own holders are all that
ever happens, and that cache answers by its journal. -/

namespace RunLog

/-- What is asked of the sessions. The caches that were given out go by number, in that order. -/
inductive SessionCall where
  | session (token : String)
  | endSession (token : String)
  | onCache (holder : Nat) (call : CacheCall)

/-- The sessions, the places of the caches that were given out, and the handles taken of the cache at
each place. -/
structure SessionDesk where
  sessions : Sessions := {}
  holders : List Nat := []
  handles : Nat → List Handle := fun _ => []

namespace SessionDesk

def deskAt (desk : SessionDesk) (place : Nat) : CacheDesk :=
  ⟨desk.sessions.cacheAt place, desk.handles place⟩

def setDeskAt (desk : SessionDesk) (place : Nat) (inner : CacheDesk) : SessionDesk :=
  { desk with
    sessions := desk.sessions.setCacheAt place inner.cache
    handles := fun place' => if place' = place then inner.handles else desk.handles place' }

def call (desk : SessionDesk) : SessionCall → SessionDesk
  | .session token =>
    let (place, sessions) := desk.sessions.session token
    { desk with sessions, holders := desk.holders ++ [place] }
  | .endSession token => { desk with sessions := (desk.sessions.endSession token).2 }
  | .onCache holder call => match desk.holders[holder]? with
    | some place => desk.setDeskAt place ((desk.deskAt place).call call)
    | none => desk

def after (calls : List SessionCall) : SessionDesk := calls.foldl call {}

end SessionDesk

structure SessionJournal where
  /-- The tokens whose sessions were ended, once for each time. -/
  ended : List String := []
  /-- The token of each holder, and how often its session had been ended when it was given the cache. -/
  holders : List (String × Nat) := []
  /-- The calls on caches, each with the name of its holder. -/
  calls : List ((String × Nat) × CacheCall) := []

namespace SessionJournal

/-- The number of times that a session was ended. -/
def epoch (j : SessionJournal) (token : String) : Nat := j.ended.count token

def onCache (j : SessionJournal) (name : String × Nat) (call : CacheCall) : SessionJournal :=
  { j with calls := j.calls ++ [(name, call)] }

def note (j : SessionJournal) : SessionCall → SessionJournal
  | .session token => { j with holders := j.holders ++ [(token, j.epoch token)] }
  | .endSession token => { j with ended := token :: j.ended }
  | .onCache holder call => match j.holders[holder]? with
    | some name => j.onCache name call
    | none => j

def ofCalls (calls : List SessionCall) : SessionJournal := calls.foldl note {}

/-- The calls of the holders with one name, in order. -/
def callsOf (j : SessionJournal) (name : String × Nat) : List CacheCall :=
  (j.calls.filter fun c => c.1 = name).map Prod.snd

theorem callsOf_onCache (j : SessionJournal) (name name' : String × Nat) (call : CacheCall) :
    (j.onCache name call).callsOf name' = j.callsOf name' ++ if name' = name then [call] else [] := by
  rw [callsOf, onCache, List.filter_append, List.map_append]
  by_cases h : name' = name
  · simp [callsOf, h]
  · simp [callsOf, h, Ne.symm h]

theorem callsOf_of_not_mem {j : SessionJournal} {name : String × Nat}
    (h : ∀ c ∈ j.calls, c.1 ≠ name) : j.callsOf name = [] := by
  have hnone : j.calls.filter (fun c => c.1 = name) = [] := by
    apply List.filter_eq_nil_iff.mpr
    intro c hc hname
    exact h c hc (of_decide_eq_true hname)
  rw [callsOf, hnone]
  rfl

end SessionJournal

namespace SessionDesk

variable {desk : SessionDesk} {j : SessionJournal} {names : List (String × Nat)}

theorem deskAt_setDeskAt {place : Nat} (h : place < desk.sessions.caches.length) (place' : Nat)
    (inner : CacheDesk) :
    (desk.setDeskAt place inner).deskAt place' =
      if place' = place then inner else desk.deskAt place' := by
  by_cases hplace : place' = place
  · subst hplace
    simp [deskAt, setDeskAt, Sessions.cacheAt, Sessions.setCacheAt, h]
  · simp [deskAt, setDeskAt, Sessions.cacheAt, Sessions.setCacheAt, hplace, Ne.symm hplace]

/-- The caches go by names, each one is as the calls under its name leave a lone cache, and no handles
were taken where no cache is. -/
structure Follows (desk : SessionDesk) (j : SessionJournal) (names : List (String × Nat)) : Prop where
  naming : Naming desk.sessions.running j.ended names
  length : names.length = desk.sessions.caches.length
  holders : desk.holders.map (fun place => names[place]?) = j.holders.map some
  used : ∀ name ∈ names, name ∈ j.holders
  desks : ∀ (place : Nat) name, names[place]? = some name →
    desk.deskAt place = CacheDesk.after (j.callsOf name)
  called : ∀ c ∈ j.calls, c.1 ∈ names
  untouched : ∀ place, names.length ≤ place → desk.handles place = []

/-- A cache that is given out gets the current name of its session, be it new or not. -/
theorem Follows.session (h : desk.Follows j names) (token : String) :
    ∃ names', (desk.call (.session token)).Follows (j.note (.session token)) names' := by
  cases hrunning : desk.sessions.running.lookup token with
  | some place =>
    have hsession : desk.sessions.session token = (place, desk.sessions) := by
      rw [Sessions.session, hrunning]
    have hname := (h.naming.live_iff token place).mp hrunning
    rw [call, hsession, SessionJournal.note]
    exact ⟨names, h.naming, h.length, names_concat h.holders (List.prefix_refl _) hname,
      fun name hmem => List.mem_append_left _ (h.used name hmem), h.desks, h.called, h.untouched⟩
  | none =>
    have hsession : desk.sessions.session token = (desk.sessions.caches.length,
        ⟨desk.sessions.caches ++ [.empty],
          (token, desk.sessions.caches.length) :: desk.sessions.running⟩) := by
      rw [Sessions.session, hrunning]
    rw [call, hsession, SessionJournal.note, ← h.length]
    refine ⟨names ++ [(token, j.epoch token)], h.naming.opened hrunning, ?_, ?_, ?_, ?_, ?_, ?_⟩
    · rw [List.length_append, List.length_append, h.length]
      rfl
    · exact names_concat h.holders (List.prefix_append _ _) List.getElem?_concat_length
    · intro name hmem
      rcases List.mem_append.mp hmem with hmem | hmem
      · exact List.mem_append_left _ (h.used name hmem)
      · exact List.mem_append_right _ hmem
    · intro place name hname
      rcases getElem?_concat_eq_some_iff.mp hname with hname | ⟨rfl, rfl⟩
      · have hlt : place < desk.sessions.caches.length := by
          rw [← h.length]
          exact (List.getElem?_eq_some_iff.mp hname).1
        have hcache : Sessions.cacheAt ⟨desk.sessions.caches ++ [.empty],
            (token, names.length) :: desk.sessions.running⟩ place = desk.sessions.cacheAt place := by
          rw [Sessions.cacheAt, Sessions.cacheAt, List.getElem?_append_left hlt]
        rw [deskAt, hcache]
        exact h.desks place name hname
      · -- The cache is new, and nobody has called it under this name before.
        have hnew := h.naming.not_mem hrunning
        have hcalls : j.callsOf (token, j.epoch token) = [] :=
          SessionJournal.callsOf_of_not_mem fun c hc heq => hnew (heq ▸ h.called c hc)
        have hcache : Sessions.cacheAt ⟨desk.sessions.caches ++ [.empty],
            (token, names.length) :: desk.sessions.running⟩ names.length = .empty := by
          rw [Sessions.cacheAt, h.length, List.getElem?_concat_length]
          rfl
        rw [deskAt, hcache, h.untouched _ (Nat.le_refl _)]
        exact congrArg CacheDesk.after hcalls.symm
    · exact fun c hc => List.mem_append_left _ (h.called c hc)
    · intro place hplace
      rw [List.length_append] at hplace
      exact h.untouched place (by omega)

theorem Follows.onCache (h : desk.Follows j names) (holder : Nat) (cacheCall : CacheCall) :
    (desk.call (.onCache holder cacheCall)).Follows (j.note (.onCache holder cacheCall)) names := by
  rw [call, SessionJournal.note]
  cases hplace : desk.holders[holder]? with
  | none =>
    rw [holders_eq_none h.holders hplace]
    exact h
  | some place =>
    obtain ⟨name, hjournal, hname⟩ := name_of_held h.holders hplace
    have hlt : place < names.length := (List.getElem?_eq_some_iff.mp hname).1
    rw [hjournal]
    refine ⟨h.naming, ?_, h.holders, h.used, ?_, ?_, ?_⟩
    · exact h.length.trans List.length_set.symm
    · intro place' name' hname'
      -- Only the cache under the name of the holder is called.
      have hsame : place' = place ↔ name' = name := by
        constructor
        · rintro rfl
          exact Option.some.inj (hname'.symm.trans hname)
        · rintro rfl
          exact h.naming.place_eq hname' hname
      have hdesk := h.desks place' name' hname'
      rw [deskAt_setDeskAt (h.length ▸ hlt), SessionJournal.callsOf_onCache]
      by_cases heq : name' = name
      · obtain rfl := hsame.mpr heq
        rw [if_pos rfl, if_pos heq, CacheDesk.after_concat, ← hdesk]
      · rw [if_neg (mt hsame.mp heq), if_neg heq, List.append_nil, hdesk]
    · intro c hc
      rcases List.mem_append.mp hc with hc | hc
      · exact h.called c hc
      · rw [List.mem_singleton.mp hc]
        exact List.mem_of_getElem? hname
    · intro place' hplace'
      have hne : place' ≠ place := by omega
      exact (if_neg hne).trans (h.untouched place' hplace')

theorem Follows.call (h : desk.Follows j names) (sessionCall : SessionCall) :
    ∃ names', (desk.call sessionCall).Follows (j.note sessionCall) names' := by
  cases sessionCall with
  | session token => exact h.session token
  | endSession token =>
    exact ⟨names, h.naming.dropped token, h.length, h.holders, h.used, h.desks, h.called, h.untouched⟩
  | onCache holder cacheCall => exact ⟨names, h.onCache holder cacheCall⟩

theorem follows_after (calls : List SessionCall) :
    ∃ names, (after calls).Follows (SessionJournal.ofCalls calls) names := by
  apply List.foldl_rel (r := fun desk j => ∃ names, Follows desk j names)
  · exact ⟨[], .empty, rfl, rfl, nofun, nofun, nofun, fun _ _ => rfl⟩
  · rintro sessionCall - desk j ⟨names, h⟩
    exact h.call sessionCall

end SessionDesk

/-- Holders have one cache just if they were given it for one token between the same two ends of its
session. Behind each one is a cache on which the calls of the holders with its name were made, and no
others. -/
structure SessionJournal.Governs (j : SessionJournal) (desk : SessionDesk) : Prop where
  holders : desk.holders.length = j.holders.length
  shared : ∀ (holder holder' : Nat) name name', j.holders[holder]? = some name →
    j.holders[holder']? = some name' → (desk.holders[holder]? = desk.holders[holder']? ↔ name = name')
  cache : ∀ (holder place : Nat) name, j.holders[holder]? = some name →
    desk.holders[holder]? = some place → desk.deskAt place = CacheDesk.after (j.callsOf name)
  ended : ∀ token, (desk.sessions.endSession token).1 = true ↔ (token, j.epoch token) ∈ j.holders
  active : ∃ tokens : List String, tokens.Nodup ∧
    (∀ token, token ∈ tokens ↔ (token, j.epoch token) ∈ j.holders) ∧
    desk.sessions.activeCount = tokens.length

namespace SessionDesk

variable {desk : SessionDesk} {j : SessionJournal} {names : List (String × Nat)}

theorem Follows.mem_names_iff (h : desk.Follows j names) (name : String × Nat) :
    name ∈ names ↔ name ∈ j.holders :=
  ⟨h.used name, mem_names_of_mem_holders h.holders⟩

theorem Follows.governs (h : desk.Follows j names) : j.Governs desk where
  holders := length_of_names h.holders
  shared := by
    intro holder holder' name name' hname hname'
    obtain ⟨place, hplace, hat⟩ := held_of_name h.holders hname
    obtain ⟨place', hplace', hat'⟩ := held_of_name h.holders hname'
    rw [hplace, hplace', Option.some_inj]
    constructor
    · rintro rfl
      exact Option.some.inj (hat.symm.trans hat')
    · rintro rfl
      exact h.naming.place_eq hat hat'
  cache := by
    intro holder place name hname hplace
    obtain ⟨place', hplace', hat⟩ := held_of_name h.holders hname
    obtain rfl := Option.some.inj (hplace.symm.trans hplace')
    exact h.desks place name hat
  ended := fun token => (h.naming.isSome_iff token).trans (h.mem_names_iff _)
  active := by
    refine ⟨desk.sessions.running.map Prod.fst, List.pairwise_map.mpr h.naming.keys, ?_, ?_⟩
    · intro token
      rw [← h.mem_names_iff, SessionJournal.epoch, ← h.naming.isSome_iff, List.mem_map,
        Option.isSome_iff_exists]
      constructor
      · rintro ⟨⟨token, place⟩, hmem, rfl⟩
        exact ⟨place, lookup_of_mem h.naming.keys hmem⟩
      · rintro ⟨place, hlookup⟩
        exact ⟨(token, place), mem_of_lookup hlookup, rfl⟩
    · exact (List.length_map _).symm

end SessionDesk

/-- Whatever is done with a cache and its handles, it answers by its journal, and what is done with one
generation of a stream shows in no other. Whatever is done with sessions, each cache that was given out
is a cache of its own in this sense, shared by the holders that have one token between the same two ends
of its session. -/
theorem caches_and_sessions_by_journal :
    (∀ calls : List CacheCall, (Journal.ofCalls calls).Governs (CacheDesk.after calls) ∧
      ∀ call, (Journal.ofCalls calls).Isolates (CacheDesk.after calls) call) ∧
    ∀ calls : List SessionCall, (SessionJournal.ofCalls calls).Governs (SessionDesk.after calls) := by
  refine ⟨fun calls => ⟨CacheDesk.governs_after calls, CacheDesk.isolates_after calls⟩, ?_⟩
  intro calls
  obtain ⟨names, h⟩ := SessionDesk.follows_after calls
  exact h.governs

end RunLog
