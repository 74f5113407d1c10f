import RunLog.Cli.Run
import RunLog.Proofs.Persistence

/-! The session store as a map from names to caches. A `Shelf` says what each name answers; saving,
clearing and forgetting change it at one name. Main statement: whatever was done with a store, a load
answers as the shelf says, each session has a file of its own below the directory of the store, and
names that are none are refused and change nothing. It holds for every bound that a file system may put
on the names of files, and whether or not the directory was there at first. -/

namespace RunLog

theorem Text.decode?_encode (s : String) : Text.decode? (Text.encode s) = some s := by
  have hbytes : (⟨(Text.encode s).toArray⟩ : ByteArray) = s.toByteArray := by
    rw [Text.encode, Array.toArray_toList]
    rfl
  rw [Text.decode?, hbytes, String.fromUTF8?, dif_pos s.isValidUTF8]
  rfl

namespace SessionStore

variable {store : SessionStore} {name file : String} {content : List UInt8} {nameLimit : Nat}

/-! ### Names and files -/

def fileOf (name : String) : String := name ++ ".json"

/-- A name for which a file system takes a file, where names of files have at most so many bytes. -/
def Usable (nameLimit : Nat) (name : String) : Prop :=
  isName name = true ∧ (fileOf name).utf8ByteSize ≤ nameLimit

instance (nameLimit : Nat) (name : String) : Decidable (Usable nameLimit name) :=
  inferInstanceAs (Decidable (_ ∧ _))

/-- A name whose file can be looked for: a name that is too long is not looked at where the directory is
missing. -/
def Reaches (store : SessionStore) (name : String) : Prop :=
  isName name = true ∧ (store.directory = true → (fileOf name).utf8ByteSize ≤ store.nameLimit)

/-- A file name that leads to no other directory. -/
def IsChild (file : String) : Prop := '/' ∉ file.toList ∧ file ≠ "" ∧ file ≠ "." ∧ file ≠ ".."

theorem fileOf_injective {name name' : String} (h : fileOf name = fileOf name') : name = name' :=
  (String.append_left_inj ".json").mp h

theorem isName_iff : isName name = true ↔
    name.toList ≠ [] ∧ name.toList.head? ≠ some '.' ∧ ∀ c ∈ name.toList, isNameChar c = true := by
  unfold isName
  cases name.toList with
  | nil => simp
  | cons c rest => simp

example : ["", ".", "..", ".hidden", "a/b", "../x", "naïve"].all (fun name => !isName name) := by decide

theorem isChild_fileOf (h : isName name = true) : IsChild (fileOf name) := by
  have hchars := (isName_iff.mp h).2.2
  have hlist : (fileOf name).toList = name.toList ++ ['.', 'j', 's', 'o', 'n'] :=
    String.toList_append
  -- The ending alone is longer than the names of directories are.
  have hlong : 5 ≤ (fileOf name).toList.length := by
    rw [hlist, List.length_append]
    exact Nat.le_add_left 5 _
  have hshort : ∀ short : String, short.toList.length < 5 → fileOf name ≠ short := by
    rintro short hlt rfl
    exact Nat.not_lt.mpr hlong hlt
  refine ⟨?_, hshort "" (by decide), hshort "." (by decide), hshort ".." (by decide)⟩
  intro hmem
  rw [hlist] at hmem
  rcases List.mem_append.mp hmem with hmem | hmem
  · exact absurd (hchars '/' hmem) (by decide)
  · exact absurd hmem (by decide)

theorem fileName_of_isName (h : isName name = true) : fileName name = .ok (fileOf name) := by
  rw [fileName, if_pos h, fileOf]

def invalidName (name : String) : TransferError :=
  .failure .invalidInput ("invalid session name '" ++ name ++ "'")

theorem fileName_of_invalid (h : isName name = false) : fileName name = .error (invalidName name) := by
  rw [fileName, if_neg (by simp [h]), invalidName]

theorem Usable.reaches (h : Usable store.nameLimit name) : store.Reaches name :=
  ⟨h.1, fun _ => h.2⟩

theorem reaches_of_missing (h : isName name = true) (hdir : store.directory = false) :
    store.Reaches name := by
  refine ⟨h, fun hthere => ?_⟩
  rw [hdir] at hthere
  cases hthere

/-- A file that is there has a name that the file system takes. -/
theorem usable_of_file? (h : isName name = true) (hfile : store.file? (fileOf name) = some content) :
    Usable store.nameLimit name :=
  ⟨h, (store.sound _ (mem_of_lookup hfile)).2⟩

theorem files_of_missing (hdir : store.directory = false) : store.files = [] := by
  rw [List.eq_nil_iff_forall_not_mem]
  intro e he
  exact nomatch hdir.symm.trans (store.sound e he).1

theorem find?_of_reaches (h : store.Reaches name) :
    store.find? (fileOf name) = .ok (store.file? (fileOf name)) := by
  unfold find?
  split
  · next hlong =>
    obtain ⟨hdir, hlong⟩ := (Bool.and_eq_true _ _).mp hlong
    exact absurd (h.2 hdir) (Nat.not_le.mpr (of_decide_eq_true hlong))
  · rfl

def contentOf (cache : CursorCache) : List UInt8 := Text.encode cache.snapshot.toJson.toPretty

theorem load_of_isName (h : isName name = true) :
    store.load name = match store.find? (fileOf name) with
      | .ok (some content) => cursorsOf content
      | .ok none => .ok .empty
      | .error e => .error e := by
  rw [load, fileName_of_isName h]
  change (store.find? (fileOf name) >>= _) = _
  generalize store.find? (fileOf name) = found
  obtain _ | _ | _ := found <;> rfl

theorem save_of_isName (h : isName name = true) (cursors : CursorCache) :
    store.save name cursors =
      if store.nameLimit < (fileOf name).utf8ByteSize then .error nameTooLong
      else .ok (store.write (fileOf name) (contentOf cursors)) := by
  rw [save, fileName_of_isName h]
  change (if store.nameLimit < (fileOf name).utf8ByteSize then _ else _) = _
  split <;> rfl

theorem clear_of_isName (h : isName name = true) :
    store.clear name =
      (store.find? (fileOf name)).map fun found => (found.isSome, store.erase (fileOf name)) := by
  rw [clear, fileName_of_isName h]
  change (store.find? (fileOf name) >>= _) = _
  cases store.find? (fileOf name) <;> rfl

theorem load_of_reaches (h : store.Reaches name) :
    store.load name = match store.file? (fileOf name) with
      | some content => cursorsOf content
      | none => .ok .empty := by
  rw [load_of_isName h.1, find?_of_reaches h]
  cases store.file? (fileOf name) <;> rfl

theorem save_of_usable (h : Usable store.nameLimit name) (cursors : CursorCache) :
    store.save name cursors = .ok (store.write (fileOf name) (contentOf cursors)) := by
  rw [save_of_isName h.1, if_neg (Nat.not_lt.mpr h.2)]

theorem clear_of_reaches (h : store.Reaches name) :
    store.clear name = .ok ((store.file? (fileOf name)).isSome, store.erase (fileOf name)) := by
  rw [clear_of_isName h.1, find?_of_reaches h]
  rfl

/-- A name that is refused whatever is asked, and nothing changes. -/
structure Refuses (store : SessionStore) (name : String) (e : TransferError) : Prop where
  load : store.load name = .error e
  save : ∀ cursors, store.save name cursors = .error e
  clear : store.clear name = .error e
  unsaved : store.unsaved name = store

theorem refuses_of_invalid (store : SessionStore) (h : isName name = false) :
    store.Refuses name (invalidName name) where
  load := by
    rw [load, fileName_of_invalid h]
    rfl
  save := by
    intro cursors
    rw [save, fileName_of_invalid h]
    rfl
  clear := by
    rw [clear, fileName_of_invalid h]
    rfl
  unsaved := if_neg (by simp [h])

theorem made_of_directory (hdir : store.directory = true) : store.made = store := by
  obtain ⟨files, directory, nameLimit, sound⟩ := store
  obtain rfl : directory = true := hdir
  rfl

theorem save_of_long (h : isName name = true) (hlong : ¬ Usable store.nameLimit name)
    (cursors : CursorCache) : store.save name cursors = .error nameTooLong := by
  rw [save_of_isName h, if_pos (Nat.not_le.mp fun hfits => hlong ⟨h, hfits⟩)]

theorem unsaved_of_isName (h : isName name = true) : store.unsaved name = store.made :=
  if_pos h

theorem refuses_of_long (h : isName name = true) (hlong : ¬ Usable store.nameLimit name)
    (hdir : store.directory = true) : store.Refuses name nameTooLong := by
  have hfind : store.find? (fileOf name) = .error nameTooLong := by
    have hlong : store.nameLimit < (fileOf name).utf8ByteSize :=
      Nat.not_le.mp fun hfits => hlong ⟨h, hfits⟩
    rw [find?, hdir, decide_eq_true hlong]
    rfl
  refine ⟨?_, save_of_long h hlong, ?_, (unsaved_of_isName h).trans (made_of_directory hdir)⟩
  · rw [load_of_isName h, hfind]
  · rw [clear_of_isName h, hfind]
    rfl

theorem refuses_of_unusable (h : ¬ Usable store.nameLimit name) (hdir : store.directory = true) :
    ∃ e, store.Refuses name e := by
  cases hname : isName name with
  | false => exact ⟨_, refuses_of_invalid store hname⟩
  | true => exact ⟨_, refuses_of_long hname h hdir⟩

theorem write_of_fits (content : List UInt8) (hfits : file.utf8ByteSize ≤ store.nameLimit) :
    (store.write file content).files = (file, content) :: store.files.filter (fun e => e.1 ≠ file) ∧
      (store.write file content).directory = true ∧
      (store.write file content).nameLimit = store.nameLimit := by
  rw [write, dif_pos hfits]
  exact ⟨rfl, rfl, rfl⟩

theorem file?_write (content : List UInt8) (hfits : file.utf8ByteSize ≤ store.nameLimit)
    (file' : String) :
    (store.write file content).file? file' =
      if file' = file then some content else store.file? file' := by
  rw [file?, (write_of_fits content hfits).1, lookup_cons_eq, lookup_filter_ne, file?]
  split <;> rfl

theorem file?_erase (store : SessionStore) (file file' : String) :
    (store.erase file).file? file' = if file' = file then none else store.file? file' :=
  lookup_filter_ne file file' store.files

theorem file?_of_missing (hdir : store.directory = false) (file : String) : store.file? file = none := by
  rw [file?, files_of_missing hdir]
  rfl

theorem load_of_missing (h : isName name = true) (hdir : store.directory = false) :
    store.load name = .ok .empty := by
  rw [load_of_reaches (reaches_of_missing h hdir), file?_of_missing hdir]

theorem erase_of_missing (hdir : store.directory = false) (file : String) : store.erase file = store := by
  have hnil := files_of_missing hdir
  obtain ⟨files, directory, nameLimit, sound⟩ := store
  obtain rfl : files = [] := hnil
  rfl

theorem clear_of_missing (h : isName name = true) (hdir : store.directory = false) :
    store.clear name = .ok (false, store) := by
  rw [clear_of_reaches (reaches_of_missing h hdir), file?_of_missing hdir, erase_of_missing hdir]
  rfl

/-! ### The shelf -/

abbrev Answers := StreamKey → UInt64 → Option ResumePoint

/-- What each session answers, if there is something kept under its name. -/
abbrev Shelf := String → Option Answers

def Shelf.put (shelf : Shelf) (name : String) (answers : Option Answers) : Shelf :=
  fun other => if other = name then answers else shelf other

theorem Shelf.put_self (shelf : Shelf) (name : String) : shelf.put name (shelf name) = shelf := by
  funext other
  unfold Shelf.put
  split
  · next heq => rw [heq]
  · rfl

/-- The answers without those for one stream. -/
def without (key : StreamKey) (answers : Answers) : Answers :=
  fun other offset => if other = key then none else answers other offset

theorem get?_forget_eq (cache : CursorCache) (key : StreamKey) :
    (cache.forget key).2.get? = without key cache.get? := by
  funext other offset
  exact CursorCache.get?_forget cache key other offset

/-- The files of a store are those of the sessions on a shelf, each with the text of a cache that
answers what the shelf says. -/
structure Holds (nameLimit : Nat) (store : SessionStore) (shelf : Shelf) : Prop where
  limit : store.nameLimit = nameLimit
  files : ∀ e ∈ store.files, ∃ name, Usable nameLimit name ∧ e.1 = fileOf name
  kept : ∀ name, store.file? (fileOf name) = none ∧ shelf name = none ∨
    ∃ cache : CursorCache, cache.Orderly ∧ store.file? (fileOf name) = some (contentOf cache) ∧
      shelf name = some cache.get?

variable {shelf : Shelf} {cache : CursorCache}

theorem holds_start (nameLimit : Nat) (directory : Bool) :
    Holds nameLimit { directory, nameLimit } fun _ => none where
  limit := rfl
  files := nofun
  kept := fun _ => .inl ⟨rfl, rfl⟩

theorem Holds.made (h : Holds nameLimit store shelf) : Holds nameLimit store.made shelf :=
  ⟨h.limit, h.files, h.kept⟩

theorem Holds.write (h : Holds nameLimit store shelf) (hname : Usable nameLimit name)
    (hcache : cache.Orderly) :
    Holds nameLimit (store.write (fileOf name) (contentOf cache)) (shelf.put name (some cache.get?)) := by
  have hfits : (fileOf name).utf8ByteSize ≤ store.nameLimit := h.limit.symm ▸ hname.2
  obtain ⟨hfiles, -, hlimit⟩ := write_of_fits (contentOf cache) hfits
  refine ⟨hlimit.trans h.limit, ?_, ?_⟩
  · intro e he
    rw [hfiles] at he
    rcases List.mem_cons.mp he with rfl | he
    · exact ⟨name, hname, rfl⟩
    · exact h.files e (List.mem_filter.mp he).1
  · intro other
    rw [file?_write _ hfits, Shelf.put]
    by_cases hother : other = name
    · rw [if_pos (congrArg fileOf hother), if_pos hother]
      exact .inr ⟨cache, hcache, rfl, rfl⟩
    · rw [if_neg (mt fileOf_injective hother), if_neg hother]
      exact h.kept other

theorem Holds.erase (h : Holds nameLimit store shelf) (name : String) :
    Holds nameLimit (store.erase (fileOf name)) (shelf.put name none) where
  limit := h.limit
  files := fun e he => h.files e (List.mem_filter.mp he).1
  kept := by
    intro other
    rw [file?_erase, Shelf.put]
    by_cases hother : other = name
    · rw [if_pos (congrArg fileOf hother), if_pos hother]
      exact .inl ⟨rfl, rfl⟩
    · rw [if_neg (mt fileOf_injective hother), if_neg hother]
      exact h.kept other

theorem cursorsOf_contentOf (h : cache.Orderly) :
    cursorsOf (contentOf cache) = .ok (CursorCache.ofSnapshot cache.snapshot) := by
  have hparse := CursorSnapshot.parse?_toPretty h.ascending_of_mem_snapshot
  simp only [cursorsOf, contentOf, Text.decode?_encode, hparse, Option.map_some, Option.getD_some]

/-- A load answers what the shelf says, and the cache knows just the streams for which it answers
something. -/
theorem Holds.load (h : Holds nameLimit store shelf) (hname : store.Reaches name) :
    ∃ cache, store.load name = .ok cache ∧ cache.Orderly ∧
      (∀ key offset, cache.get? key offset = (shelf name).bind fun answers => answers key offset) ∧
      ∀ key, (cache.forget key).1 = true ↔ ∃ offset point, cache.get? key offset = some point := by
  rw [load_of_reaches hname]
  rcases h.kept name with ⟨hfile, hshelf⟩ | ⟨kept, hkept, hfile, hshelf⟩
  · rw [hfile, hshelf]
    refine ⟨.empty, rfl, CursorCache.orderly_empty, fun _ _ => rfl, fun key => ?_⟩
    exact iff_of_false Bool.false_ne_true fun ⟨_, _, hpoint⟩ => nomatch hpoint
  · have hget := hkept.wellFormed.get?_ofSnapshot
    rw [hfile, hshelf]
    refine ⟨.ofSnapshot kept.snapshot, cursorsOf_contentOf hkept,
      CursorCache.orderly_ofSnapshot hkept.ascending_of_mem_snapshot, hget, fun key => ?_⟩
    simp only [hget]
    exact hkept.forget_ofSnapshot key

end SessionStore

/-! ### Calls -/

namespace Cli

variable {τ : Type}

/-- A job goes on with what it was given, and ends with a failure if it was given none. -/
theorem ofExcept_bind_run {ε α β : Type} (asFailure : ε → Failure) (given : Except ε α)
    (others : α → Job τ β) (work : Work τ) :
    ((Job.ofExcept asFailure given : Job τ α) >>= others).run work = match given with
      | .ok value => (others value).run work
      | .error e => (.error (asFailure e), work) := by
  cases given <;> rfl

theorem saveSession_run (name : String) (cursors : CursorCache) (work : Work τ) :
    (saveSession name cursors).run work = match work.sessions.save name cursors with
      | .ok sessions => (.ok (), { work with sessions })
      | .error e =>
        (.error (.unsaved name e), { work with sessions := work.sessions.unsaved name }) := by
  have hrun : (saveSession name cursors).run work =
      ExceptT.run (match work.sessions.save name cursors with
        | .ok sessions => (modify fun (w : Work τ) => { w with sessions } : Job τ Unit)
        | .error e => do
          modify fun (w : Work τ) => { w with sessions := w.sessions.unsaved name }
          throw (.unsaved name e)) work := rfl
  rw [hrun]
  cases work.sessions.save name cursors <;> rfl

theorem forget_none_run (name : String) (work : Work τ) : (forget name none).run work =
    match work.sessions.clear name with
    | .ok cleared => (.ok (), { work with
        sessions := cleared.2
        notes := if cleared.1 then work.notes
          else work.notes ++ ["no saved session '" ++ name ++ "'"] })
    | .error e => (.error (.transfer e), work) := by
  have hrun : (forget name none).run work =
      ((Job.ofExcept .transfer (work.sessions.clear name) : Job τ _) >>= fun cleared => do
        modify fun w => { w with sessions := cleared.2 }
        if !cleared.1 then Job.note ("no saved session '" ++ name ++ "'")).run work := rfl
  rw [hrun, ofExcept_bind_run]
  cases work.sessions.clear name with
  | error e => rfl
  | ok cleared =>
    obtain ⟨_ | _, sessions⟩ := cleared <;> rfl

theorem forget_some_run (name : String) (key : StreamKey) (work : Work τ) :
    (forget name (some key)).run work = match work.sessions.load name with
      | .ok cache =>
        if (cache.forget key).1 then match work.sessions.save name (cache.forget key).2 with
          | .ok sessions => (.ok (), { work with sessions })
          | .error e =>
            (.error (.unsaved name e), { work with sessions := work.sessions.unsaved name })
        else (.ok (), { work with
          notes := work.notes ++ ["no offsets for " ++ key.text ++ " in session '" ++ name ++ "'"] })
      | .error e => (.error (.transfer e), work) := by
  have hrun : (forget name (some key)).run work =
      ((Job.ofExcept .transfer (work.sessions.load name) : Job τ _) >>= fun cache =>
        if (cache.forget key).1 then saveSession name (cache.forget key).2
        else Job.note ("no offsets for " ++ key.text ++ " in session '" ++ name ++ "'")).run work := rfl
  rw [hrun, ofExcept_bind_run]
  cases work.sessions.load name with
  | error e => rfl
  | ok cache =>
    by_cases hknown : (cache.forget key).1 = true
    · simp only [hknown, if_true, saveSession_run]
    · simp only [hknown]
      rfl

end Cli

/-- What is asked of a session store: by the program that keeps its sessions there, or through the
command that forgets a session or one stream of it. -/
inductive StoreCall where
  | save (name : String) (cursors : CursorCache) (h : cursors.Reachable)
  | load (name : String)
  | clear (name : String)
  | forget (name : String) (key : Option StreamKey)

namespace StoreCall

open SessionStore Cli

variable {τ : Type} {work : Work τ} {shelf : Shelf} {call : StoreCall} {nameLimit : Nat}

def name : StoreCall → String
  | save name _ _ => name
  | load name => name
  | clear name => name
  | forget name _ => name

def run (work : Work τ) : StoreCall → Except Failure Unit × Work τ
  | save name cursors _ => match work.sessions.save name cursors with
    | .ok sessions => (.ok (), { work with sessions })
    | .error e => (.error (.transfer e), { work with sessions := work.sessions.unsaved name })
  | load name => match work.sessions.load name with
    | .ok _ => (.ok (), work)
    | .error e => (.error (.transfer e), work)
  | clear name => match work.sessions.clear name with
    | .ok (_, sessions) => (.ok (), { work with sessions })
    | .error e => (.error (.transfer e), work)
  | forget name key => (Cli.forget name key).run work

def runAll (work : Work τ) (calls : List StoreCall) : Work τ :=
  calls.foldl (fun work call => (call.run work).2) work

/-- What a call leaves under its name, of what was kept there. -/
def leaves (kept : Option Answers) : StoreCall → Option Answers
  | save _ cursors _ => some cursors.get?
  | load _ => kept
  | clear _ => none
  | forget _ none => none
  | forget _ (some key) => kept.map (without key)

/-- What a call makes of the shelf. Nothing is kept under a name that has no file. -/
def shelve (nameLimit : Nat) (shelf : Shelf) (call : StoreCall) : Shelf :=
  if Usable nameLimit call.name then shelf.put call.name (call.leaves (shelf call.name)) else shelf

def shelfOf (nameLimit : Nat) (calls : List StoreCall) : Shelf :=
  calls.foldl (shelve nameLimit) fun _ => none

/-- What the file system does not fail at: a save under a name for which it takes a file, and any other
call that can look for its file. -/
def Feasible (store : SessionStore) : StoreCall → Prop
  | save name _ _ => Usable store.nameLimit name
  | load name | clear name | forget name _ => store.Reaches name

/-- A name that is refused is refused by every call, and nothing happens. -/
theorem run_of_refused {e : TransferError} (h : work.sessions.Refuses call.name e) :
    call.run work = (.error (.transfer e), work) := by
  cases call with
  | save name cursors hcursors =>
    have hname : work.sessions.Refuses name e := h
    simp only [run, hname.save, hname.unsaved]
  | load name =>
    have hname : work.sessions.Refuses name e := h
    rw [run, hname.load]
  | clear name =>
    have hname : work.sessions.Refuses name e := h
    rw [run, hname.clear]
  | forget name key =>
    have hname : work.sessions.Refuses name e := h
    cases key with
    | none => rw [run, forget_none_run, hname.clear]
    | some key => rw [run, forget_some_run, hname.load]

/-- Forgetting a stream for which a session answers nothing leaves the files alone. -/
theorem sessions_forget_of_nothing (h : Holds nameLimit work.sessions shelf) {name : String}
    {key : StreamKey} (hname : work.sessions.Reaches name)
    (hnothing : ∀ offset, ((shelf name).bind fun answers => answers key offset) = none) :
    ((forget name (some key)).run work).1 = .ok () ∧
      ((forget name (some key)).run work).2.sessions = work.sessions := by
  obtain ⟨cache, hload, -, hget, hknown⟩ := h.load hname
  have hunknown : ¬ (cache.forget key).1 = true := by
    rw [hknown]
    rintro ⟨offset, point, hpoint⟩
    rw [hget, hnothing] at hpoint
    exact nomatch hpoint
  rw [run, forget_some_run, hload]
  simp only [hunknown]
  exact ⟨rfl, rfl⟩

theorem map_without_of_nothing {kept : Option Answers} {key : StreamKey}
    (hnothing : ∀ offset, (kept.bind fun answers => answers key offset) = none) :
    kept.map (without key) = kept := by
  cases kept with
  | none => rfl
  | some answers =>
    apply congrArg some
    funext other offset
    by_cases hother : other = key
    · have hpoint : answers key offset = none := hnothing offset
      rw [without, if_pos hother, hother, hpoint]
    · rw [without, if_neg hother]

theorem run_forget (h : Holds nameLimit work.sessions shelf) {name : String}
    (hname : Usable nameLimit name) (key : StreamKey) :
    ((forget name (some key)).run work).1 = .ok () ∧
      Holds nameLimit ((forget name (some key)).run work).2.sessions
        (shelf.put name ((shelf name).map (without key))) := by
  have husable : Usable work.sessions.nameLimit name := h.limit.symm ▸ hname
  obtain ⟨cache, hload, horderly, hget, hknown⟩ := h.load husable.reaches
  by_cases hforget : (cache.forget key).1 = true
  · -- Something was kept under the name, so the shelf has answers there.
    obtain ⟨offset, point, hpoint⟩ := (hknown key).mp hforget
    rw [hget] at hpoint
    obtain ⟨answers, hshelf, -⟩ := Option.bind_eq_some_iff.mp hpoint
    have hanswers : cache.get? = answers := by
      funext other o
      rw [hget, hshelf]
      rfl
    have hwrite := h.write hname (horderly.forget key)
    rw [get?_forget_eq, hanswers] at hwrite
    rw [run, forget_some_run, hload, hshelf]
    simp only [hforget, if_true, save_of_usable husable]
    exact ⟨trivial, hwrite⟩
  · -- A cache that does not know the stream answers nothing for it, so there is nothing to take away.
    have hnothing : ∀ offset, ((shelf name).bind fun answers => answers key offset) = none := by
      intro offset
      rw [← hget, Option.eq_none_iff_forall_ne_some]
      intro point hpoint
      exact hforget ((hknown key).mpr ⟨offset, point, hpoint⟩)
    obtain ⟨hok, hsame⟩ := sessions_forget_of_nothing h husable.reaches hnothing
    rw [map_without_of_nothing hnothing, Shelf.put_self, hsame]
    exact ⟨hok, h⟩

/-- Every call with a name that has a file succeeds and keeps the files in step with the shelf. -/
theorem run_of_usable (h : Holds nameLimit work.sessions shelf) (hname : Usable nameLimit call.name) :
    (call.run work).1 = .ok () ∧
      Holds nameLimit (call.run work).2.sessions (shelve nameLimit shelf call) := by
  have husable : Usable work.sessions.nameLimit call.name := h.limit.symm ▸ hname
  rw [shelve, if_pos hname]
  cases call with
  | save name cursors hcursors =>
    have husable : Usable work.sessions.nameLimit name := husable
    have hwrite := h.write hname hcursors.orderly
    rw [run, save_of_usable husable]
    exact ⟨rfl, hwrite⟩
  | load name =>
    obtain ⟨cache, hload, -⟩ := h.load husable.reaches
    have hload : work.sessions.load name = .ok cache := hload
    rw [run, hload]
    exact ⟨rfl, (shelf.put_self name).symm ▸ h⟩
  | clear name =>
    have hreaches : work.sessions.Reaches name := husable.reaches
    rw [run, clear_of_reaches hreaches]
    exact ⟨rfl, h.erase name⟩
  | forget name key =>
    have hreaches : work.sessions.Reaches name := husable.reaches
    cases key with
    | none =>
      rw [run, forget_none_run, clear_of_reaches hreaches]
      exact ⟨rfl, h.erase name⟩
    | some key => exact run_forget h hname key

/-- Where the directory is missing, a name that is too long is the name of a session without a file, until
it is to be saved; and what that leaves is the directory. -/
theorem run_of_missing (hdir : work.sessions.directory = false) (hname : isName call.name = true)
    (hlong : ¬ Usable work.sessions.nameLimit call.name) :
    (call.Feasible work.sessions → (call.run work).1 = .ok ()) ∧
      ((call.run work).2.sessions = work.sessions ∨ (call.run work).2.sessions = work.sessions.made) := by
  cases call with
  | save name cursors hcursors =>
    have hname : isName name = true := hname
    have hlong : ¬ Usable work.sessions.nameLimit name := hlong
    rw [run, save_of_long hname hlong, unsaved_of_isName hname]
    exact ⟨fun hfeasible => absurd hfeasible hlong, .inr rfl⟩
  | load name =>
    have hname : isName name = true := hname
    rw [run, load_of_missing hname hdir]
    exact ⟨fun _ => rfl, .inl rfl⟩
  | clear name =>
    have hname : isName name = true := hname
    rw [run, clear_of_missing hname hdir]
    exact ⟨fun _ => rfl, .inl rfl⟩
  | forget name key =>
    have hvalid : isName name = true := hname
    cases key with
    | none =>
      rw [run, forget_none_run, clear_of_missing hvalid hdir]
      exact ⟨fun _ => rfl, .inl rfl⟩
    | some key =>
      rw [run, forget_some_run, load_of_missing hvalid hdir]
      exact ⟨fun _ => rfl, .inl rfl⟩

theorem run_of_unusable (hname : ¬ Usable work.sessions.nameLimit call.name)
    (hdir : work.sessions.directory = true) : ∃ e, call.run work = (.error (.transfer e), work) := by
  obtain ⟨e, he⟩ := refuses_of_unusable hname hdir
  exact ⟨e, run_of_refused he⟩

/-- What a name without a file comes to: it makes the directory at most. -/
theorem sessions_of_unusable (hname : ¬ Usable work.sessions.nameLimit call.name) :
    (call.run work).2.sessions = work.sessions ∨ (call.run work).2.sessions = work.sessions.made := by
  cases hdir : work.sessions.directory with
  | true =>
    obtain ⟨e, hrun⟩ := run_of_unusable hname hdir
    rw [hrun]
    exact .inl rfl
  | false =>
    cases hvalid : isName call.name with
    | true => exact (run_of_missing hdir hvalid hname).2
    | false =>
      rw [run_of_refused (refuses_of_invalid _ hvalid)]
      exact .inl rfl

theorem files_of_unusable (hname : ¬ Usable work.sessions.nameLimit call.name) :
    (call.run work).2.sessions.files = work.sessions.files := by
  rcases sessions_of_unusable hname with hsame | hmade
  · rw [hsame]
  · rw [hmade]
    rfl

theorem isName_of_feasible {store : SessionStore} (h : call.Feasible store) :
    isName call.name = true := by
  cases call with
  | save name cursors hcursors => exact h.1
  | _ => exact h.1

/-- Every call succeeds at which the file system does not fail. -/
theorem run_of_feasible (h : Holds nameLimit work.sessions shelf) (hcall : call.Feasible work.sessions) :
    (call.run work).1 = .ok () := by
  by_cases hname : Usable work.sessions.nameLimit call.name
  · exact (run_of_usable h (h.limit ▸ hname)).1
  · have hvalid := isName_of_feasible hcall
    cases hdir : work.sessions.directory with
    | false => exact (run_of_missing hdir hvalid hname).1 hcall
    | true =>
      cases call with
      | save name cursors hcursors => exact absurd hcall hname
      | _ => exact absurd ⟨hvalid, hcall.2 hdir⟩ hname

theorem holds_run (h : Holds nameLimit work.sessions shelf) (call : StoreCall) :
    Holds nameLimit (call.run work).2.sessions (shelve nameLimit shelf call) := by
  by_cases hname : Usable nameLimit call.name
  · exact (run_of_usable h hname).2
  · rw [shelve, if_neg hname]
    have hunusable : ¬ Usable work.sessions.nameLimit call.name := h.limit.symm ▸ hname
    rcases sessions_of_unusable hunusable with hsame | hmade
    · rw [hsame]
      exact h
    · rw [hmade]
      exact h.made

theorem holds_runAll (transport : τ) (nameLimit : Nat) (directory : Bool) (calls : List StoreCall) :
    Holds nameLimit (runAll { transport, sessions := { directory, nameLimit } } calls).sessions
      (shelfOf nameLimit calls) := by
  apply List.foldl_rel (r := fun (work : Work τ) shelf => Holds nameLimit work.sessions shelf)
    (holds_start nameLimit directory)
  rintro call - work shelf h
  exact holds_run h call

/-- What a call may do to the files. -/
inductive Effect (store : SessionStore) (file : String) : SessionStore → Prop where
  | same : Effect store file store
  | made : Effect store file store.made
  | written (content : List UInt8) (hfits : file.utf8ByteSize ≤ store.nameLimit) :
    Effect store file (store.write file content)
  | erased : Effect store file (store.erase file)

theorem effect_run (call : StoreCall) (work : Work τ) :
    Effect work.sessions (fileOf call.name) (call.run work).2.sessions := by
  by_cases hname : Usable work.sessions.nameLimit call.name
  · cases call with
    | save name cursors hcursors =>
      have husable : Usable work.sessions.nameLimit name := hname
      rw [run, save_of_usable husable]
      exact .written _ hname.2
    | load name =>
      rw [run]
      split <;> exact .same
    | clear name =>
      have hreaches : work.sessions.Reaches name := hname.reaches
      rw [run, clear_of_reaches hreaches]
      exact .erased
    | forget name key =>
      have husable : Usable work.sessions.nameLimit name := hname
      cases key with
      | none =>
        rw [run, forget_none_run, clear_of_reaches husable.reaches]
        exact .erased
      | some key =>
        rw [run, forget_some_run]
        cases work.sessions.load name with
        | error e => exact .same
        | ok cache =>
          by_cases hknown : (cache.forget key).1 = true
          · simp only [hknown, if_true, save_of_usable husable]
            exact .written _ hname.2
          · simp only [hknown]
            exact .same
  · rcases sessions_of_unusable hname with hsame | hmade
    · rw [hsame]
      exact .same
    · rw [hmade]
      exact .made

variable {store after : SessionStore} {file : String}

theorem Effect.file?_eq (h : Effect store file after) {other : String} (hother : other ≠ file) :
    after.file? other = store.file? other := by
  cases h with
  | same | made => rfl
  | written content hfits => rw [file?_write content hfits, if_neg hother]
  | erased => rw [file?_erase, if_neg hother]

theorem Effect.nameLimit_eq (h : Effect store file after) : after.nameLimit = store.nameLimit := by
  cases h with
  | same | made | erased => rfl
  | written content hfits => exact (write_of_fits content hfits).2.2

theorem Effect.directory_of (h : Effect store file after) (hdir : store.directory = true) :
    after.directory = true := by
  cases h with
  | same | erased => exact hdir
  | made => rfl
  | written content hfits => exact (write_of_fits content hfits).2.1

/-- What becomes of one file matters to no other session. -/
theorem Effect.load_eq (h : Effect store file after) {name : String} (hother : fileOf name ≠ file)
    (hdir : store.directory = true ∨ (fileOf name).utf8ByteSize ≤ store.nameLimit) :
    after.load name = store.load name := by
  have hlimit := h.nameLimit_eq
  cases hname : isName name with
  | false =>
    rw [(refuses_of_invalid store hname).load, (refuses_of_invalid after hname).load]
  | true =>
    by_cases husable : Usable store.nameLimit name
    · have hafter : Usable after.nameLimit name := hlimit.symm ▸ husable
      rw [load_of_reaches husable.reaches, load_of_reaches hafter.reaches, h.file?_eq hother]
    · have hthere := hdir.resolve_right fun hfits => husable ⟨hname, hfits⟩
      rw [(refuses_of_long hname husable hthere).load,
        (refuses_of_long hname (hlimit.symm ▸ husable) (h.directory_of hthere)).load]

end StoreCall

namespace SessionStore

open StoreCall

/-- The store answers as the shelf says, keeps one file for each name below its own directory, and
refuses what is no name. A name of which the file would have too long a name is refused as well once the
directory is there; before that it is a session without a file. -/
structure Shelf.Governs {τ : Type} (shelf : Shelf) (work : Cli.Work τ) : Prop where
  load : ∀ name, work.sessions.Reaches name → ∃ cache, work.sessions.load name = .ok cache ∧
    ∀ key offset, cache.get? key offset = (shelf name).bind fun answers => answers key offset
  clear : ∀ name, work.sessions.Reaches name →
    (work.sessions.clear name).map Prod.fst = .ok (shelf name).isSome
  succeeds : ∀ call : StoreCall, call.Feasible work.sessions → (run work call).1 = .ok ()
  others : ∀ (call : StoreCall) name, name ≠ call.name →
    work.sessions.directory = true ∨ (fileOf name).utf8ByteSize ≤ work.sessions.nameLimit →
    (run work call).2.sessions.load name = work.sessions.load name
  nothing : ∀ name key, work.sessions.Reaches name →
    (∀ offset, ((shelf name).bind fun answers => answers key offset) = none) →
    (run work (.forget name (some key))).2.sessions = work.sessions
  invalid : ∀ call, isName call.name = false →
    ∃ e, run work call = (.error (.transfer e), work) ∧ e.kind = .invalidInput
  unusable : ∀ call, ¬ Usable work.sessions.nameLimit call.name →
    (run work call).2.sessions.files = work.sessions.files ∧
    (work.sessions.directory = true → ∃ e, run work call = (.error (.transfer e), work))
  files : ∀ e ∈ work.sessions.files, ∃ name, isName name = true ∧ e.1 = fileOf name ∧ IsChild e.1
  touched : ∀ (call : StoreCall) file, file ≠ fileOf call.name →
    (run work call).2.sessions.file? file = work.sessions.file? file

/-- Whatever is saved, loaded, cleared and forgotten, under any names, the store that was empty at
first is a map from names to what was saved last, without what was forgotten since, and different names
have different files. The file system may put any bound on the names of files, and the directory may be
missing at first. -/
theorem session_store_by_shelf {τ : Type} (transport : τ) (nameLimit : Nat) (directory : Bool)
    (calls : List StoreCall) :
    (shelfOf nameLimit calls).Governs
      (runAll { transport, sessions := { directory, nameLimit } } calls) ∧
    ∀ name name', fileOf name = fileOf name' → name = name' := by
  have hholds := holds_runAll transport nameLimit directory calls
  refine ⟨?_, fun _ _ => fileOf_injective⟩
  exact {
    load := by
      intro name hname
      obtain ⟨cache, hload, -, hget, -⟩ := hholds.load hname
      exact ⟨cache, hload, hget⟩
    clear := by
      intro name hname
      rw [clear_of_reaches hname]
      rcases hholds.kept name with ⟨hfile, hshelf⟩ | ⟨cache, -, hfile, hshelf⟩
      · rw [hfile, hshelf]
        rfl
      · rw [hfile, hshelf]
        rfl
    succeeds := fun call hfeasible => run_of_feasible hholds hfeasible
    others := fun call name hne hdir => (effect_run call _).load_eq (mt fileOf_injective hne) hdir
    nothing := fun name key hname hnothing => (sessions_forget_of_nothing hholds hname hnothing).2
    invalid := fun call hname => ⟨_, run_of_refused (refuses_of_invalid _ hname), rfl⟩
    unusable := fun call hname => ⟨files_of_unusable hname, run_of_unusable hname⟩
    files := by
      intro e he
      obtain ⟨name, hname, hfile⟩ := hholds.files e he
      exact ⟨name, hname.1, hfile, hfile ▸ isChild_fileOf hname.1⟩
    touched := fun call file hfile => (effect_run call _).file?_eq hfile }

end SessionStore

end RunLog
