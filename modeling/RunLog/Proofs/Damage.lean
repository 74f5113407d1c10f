import RunLog.Proofs.Forms
import RunLog.Proofs.SessionFiles
import RunLog.Proofs.Unfinished

namespace RunLog

theorem Text.decode?_eq_some_iff {bytes : List UInt8} {text : String} :
    decode? bytes = some text ↔ bytes = encode text := by
  constructor
  · intro h
    rw [decode?, String.fromUTF8?] at h
    split at h
    · next hvalid =>
      rw [← Option.some.inj h]
      rfl
    · cases h
  · rintro rfl
    exact decode?_encode text

namespace CursorSnapshot

theorem isContainer_of_ofJson? {value : Json} {snapshot : CursorSnapshot}
    (h : ofJson? value = some snapshot) : value.IsContainer := by
  cases value with
  | array | object => trivial
  | null | bool | number | string => cases h

/-- A first part of the text of a snapshot is not one itself. -/
theorem parse?_of_cut {snapshot : CursorSnapshot} {text more : List Char}
    (h : snapshot.toJson.toPretty.toList = text ++ more) (hmore : more ≠ []) :
    parse? text = none := by
  rw [Option.eq_none_iff_forall_ne_some]
  intro other hother
  obtain ⟨value, hvalue, hsnapshot⟩ := Option.bind_eq_some_iff.mp hother
  -- The whole text ends with a brace, which is what stands behind its first part.
  obtain ⟨front, hfront⟩ : ∃ front, snapshot.toJson.toPretty.toList = front ++ ['\x7d'] := by
    rw [Json.toPretty, String.toList_ofList, toJson, Json.pretty_fields]
    exact ⟨_, rfl⟩
  have hbrace : ∃ c ∈ more, Json.Token.isBlank c = false := by
    have hlast : (text ++ more).getLast? = some '\x7d' := by
      rw [← h, hfront, List.getLast?_concat]
    rw [List.getLast?_append, List.getLast?_eq_some_getLast hmore, Option.some_or] at hlast
    exact ⟨_, List.getLast_mem hmore, Option.some.inj hlast ▸ rfl⟩
  have hnone := Json.parse?_append_eq_none hvalue (isContainer_of_ofJson? hsnapshot) hbrace
  rw [← h, Json.toPretty, String.toList_ofList, snapshot.written_toJson.parse?_pretty] at hnone
  cases hnone

end CursorSnapshot

namespace SessionStore

variable {store : SessionStore} {name : String} {content : List UInt8}

/-- Bytes that are UTF-8. -/
def IsText (content : List UInt8) : Prop := ∃ text, content = Text.encode text

def notText : TransferError := .failure .invalidData "stream did not contain valid UTF-8"

theorem cursorsOf_encode (text : String) : cursorsOf (Text.encode text) =
    .ok (((CursorSnapshot.parse? text.toList).map CursorCache.ofSnapshot).getD .empty) := by
  rw [cursorsOf, Text.decode?_encode]

theorem cursorsOf_of_not_text (h : ¬ IsText content) : cursorsOf content = .error notText := by
  have hnone : Text.decode? content = none := by
    rw [Option.eq_none_iff_forall_ne_some]
    intro text htext
    exact h ⟨text, Text.decode?_eq_some_iff.mp htext⟩
  rw [cursorsOf, hnone]
  rfl

theorem load_of_file (hname : isName name = true)
    (hfile : store.file? (fileOf name) = some content) : store.load name = cursorsOf content := by
  rw [load_of_reaches (usable_of_file? hname hfile).reaches, hfile]

/-- A save needs nothing of what was there before. -/
theorem load_after_save (hname : Usable store.nameLimit name) {cache : CursorCache}
    (hcache : cache.Reachable) :
    ∃ saved, store.save name cache = .ok saved ∧ ∃ loaded, saved.load name = .ok loaded ∧
      (∀ key offset, loaded.get? key offset = cache.get? key offset) ∧
      loaded.snapshot = cache.snapshot := by
  have hfile := file?_write (contentOf cache) hname.2 (fileOf name)
  rw [if_pos rfl] at hfile
  refine ⟨_, save_of_usable hname cache, .ofSnapshot cache.snapshot, ?_, ?_, ?_⟩
  · rw [load_of_file hname.1 hfile, cursorsOf_contentOf hcache.orderly]
  · exact hcache.orderly.wellFormed.get?_ofSnapshot
  · exact hcache.orderly.snapshot_ofSnapshot

theorem load_after_clear (hname : isName name = true)
    (hfile : store.file? (fileOf name) = some content) :
    ∃ cleared, store.clear name = .ok (true, cleared) ∧ cleared.load name = .ok .empty := by
  have husable := usable_of_file? hname hfile
  have herased := file?_erase store (fileOf name) (fileOf name)
  rw [if_pos rfl] at herased
  have hreaches : (store.erase (fileOf name)).Reaches name := ⟨hname, fun _ => husable.2⟩
  refine ⟨store.erase (fileOf name), ?_, ?_⟩
  · rw [clear_of_reaches husable.reaches, hfile]
    rfl
  · rw [load_of_reaches hreaches, herased]

end SessionStore

namespace Cli

variable {τ : Type} {work : Work τ} {name : String} {e : TransferError}

theorem loadSession_bind_run {α : Type} (hload : work.sessions.load name = .error e)
    (others : CursorCache → Job τ α) :
    (loadSession name >>= others).run work = (.error (.transfer e), work) := by
  have hrun : (loadSession name >>= others).run work =
      ((Job.ofExcept .transfer (work.sessions.load name) : Job τ _) >>= others).run work := rfl
  rw [hrun, ofExcept_bind_run, hload]

/-- A log is not printed, and nothing is sent, as long as its session cannot be loaded. -/
theorem cat_of_not_loaded [HttpTransport τ] (hload : work.sessions.load name = .error e)
    (config : Loki.Config) (scope : RunScope) (skip : UInt64) (grep : Option Grep) (now : Instant) :
    ∃ failure, (cat config scope skip (some name) grep now).run work = (.error failure, work) := by
  unfold cat
  rw [ofExcept_bind_run]
  cases grep.mapM lineFilter with
  | error failure => exact ⟨failure, rfl⟩
  | ok filter => exact ⟨.transfer e, loadSession_bind_run hload _⟩

theorem forget_of_not_loaded (hload : work.sessions.load name = .error e) (key : StreamKey) :
    (forget name (some key)).run work = (.error (.transfer e), work) := by
  rw [forget_some_run, hload]

end Cli

namespace SessionStore

variable {store : SessionStore} {name : String} {content : List UInt8}

/-- The session gives nothing to the commands that begin with a load of it, and they do nothing else. -/
structure Blocks (store : SessionStore) (name : String) : Prop where
  load : store.load name = .error notText
  cat : ∀ (τ : Type) [HttpTransport τ] (work : Cli.Work τ), work.sessions = store →
    ∀ config scope skip grep now, ∃ failure,
      (Cli.cat config scope skip (some name) grep now).run work = (.error failure, work)
  forget : ∀ (τ : Type) (work : Cli.Work τ), work.sessions = store →
    ∀ key, (Cli.forget name (some key)).run work = (.error (.transfer notText), work)

theorem blocks_of_not_text (hname : isName name = true)
    (hfile : store.file? (fileOf name) = some content) (h : ¬ IsText content) : store.Blocks name := by
  have hload : store.load name = .error notText := by
    rw [load_of_file hname hfile, cursorsOf_of_not_text h]
  refine ⟨hload, ?_, ?_⟩
  · rintro τ _ work rfl config scope skip grep now
    exact Cli.cat_of_not_loaded hload config scope skip grep now
  · rintro τ work rfl key
    exact Cli.forget_of_not_loaded hload key

/-- A save that was cut leaves a session without cursors, unless the cut is within a character. -/
theorem load_of_cut (hname : isName name = true)
    (hfile : store.file? (fileOf name) = some content) {cache : CursorCache}
    (hcut : content <+: contentOf cache) (hne : content ≠ contentOf cache)
    (htext : IsText content) : store.load name = .ok .empty := by
  obtain ⟨rest, hrest⟩ := hcut
  obtain ⟨text, rfl⟩ := htext
  have hmore : rest ≠ [] := by
    rintro rfl
    exact hne ((List.append_nil _).symm.trans hrest)
  obtain ⟨others, hothers, hnonempty⟩ := Text.exists_toList_of_encode hrest hmore
  rw [load_of_file hname hfile, cursorsOf_encode, CursorSnapshot.parse?_of_cut hothers hnonempty]
  rfl

/-- A file with the text of a snapshot gives the cursors that are in it, and one with any other text gives
none. So a load fails only for bytes that are no text, and then everything fails that begins with a load.
What a save leaves that was cut is never taken for a snapshot: it gives no cursors, or it is no text.
Whatever the content is, the session can be saved again, and read from then on, and it can be cleared.
That there is the file says that the file system takes its name, whatever the bound on names is. -/
theorem load_of_content (hname : isName name = true)
    (hfile : store.file? (fileOf name) = some content) :
    (∀ text snapshot, content = Text.encode text →
      CursorSnapshot.parse? text.toList = some snapshot →
        store.load name = .ok (.ofSnapshot snapshot)) ∧
    (∀ text, content = Text.encode text → CursorSnapshot.parse? text.toList = none →
      store.load name = .ok .empty) ∧
    ((∃ cache, store.load name = .ok cache) ↔ IsText content) ∧
    (¬ IsText content → store.Blocks name) ∧
    (∀ cache, content <+: contentOf cache → content ≠ contentOf cache →
      store.load name = .ok .empty ∨ ¬ IsText content) ∧
    (∀ cache : CursorCache, cache.Reachable → ∃ saved, store.save name cache = .ok saved ∧
      ∃ loaded, saved.load name = .ok loaded ∧
        (∀ key offset, loaded.get? key offset = cache.get? key offset) ∧
        loaded.snapshot = cache.snapshot) ∧
    ∃ cleared, store.clear name = .ok (true, cleared) ∧ cleared.load name = .ok .empty := by
  have hblocks := blocks_of_not_text hname hfile
  refine ⟨?_, ?_, ?_, hblocks, fun cache hcut hne => ?_,
    fun _ => load_after_save (usable_of_file? hname hfile),
    load_after_clear hname hfile⟩
  · rintro text snapshot rfl hparse
    rw [load_of_file hname hfile, cursorsOf_encode, hparse]
    rfl
  · rintro text rfl hparse
    rw [load_of_file hname hfile, cursorsOf_encode, hparse]
    rfl
  · constructor
    · rintro ⟨cache, hload⟩
      apply Classical.byContradiction
      intro htext
      exact nomatch (hblocks htext).load.symm.trans hload
    · rintro ⟨text, rfl⟩
      exact ⟨_, (load_of_file hname hfile).trans (cursorsOf_encode text)⟩
  · by_cases htext : IsText content
    · exact .inl (load_of_cut hname hfile hcut hne htext)
    · exact .inr htext

/-- The file of a session is cut behind the first of two bytes of a character. -/
def torn : SessionStore := SessionStore.write {} "s.json" [0x7b, 0xC3]

theorem not_text_torn : ¬ IsText [0x7b, 0xC3] := by
  rintro ⟨text, htext⟩
  have hnone : Text.decode? [0x7b, 0xC3] = none := by decide
  exact nomatch hnone.symm.trans (Text.decode?_eq_some_iff.mpr htext)

theorem load_of_content_torn :
    isName "s" = true ∧ torn.file? (fileOf "s") = some [0x7b, 0xC3] ∧ torn.Blocks "s" ∧
    (∃ saved, torn.save "s" CursorCache.escapedCache = .ok saved ∧ ∃ loaded,
      saved.load "s" = .ok loaded ∧ loaded.get? ⟨"a\"b\n", 1, some "é"⟩ 5 = some ⟨some ⟨7⟩, 2⟩) := by
  have hname : isName "s" = true := by decide
  have hfile : torn.file? (fileOf "s") = some [0x7b, 0xC3] := by decide
  have hput := CursorCache.Reachable.empty.put ⟨"a\"b\n", 1, some "é"⟩ 5 ⟨some ⟨7⟩, 2⟩
  obtain ⟨-, -, -, hblocks, -, hsave, -⟩ := load_of_content hname hfile
  obtain ⟨saved, hsaved, loaded, hload, hget, -⟩ := hsave CursorCache.escapedCache (hput.hold _)
  exact ⟨hname, hfile, hblocks not_text_torn, saved, hsaved, loaded, hload,
    (hget _ _).trans (by decide)⟩

/-- The session is blocked, although its name is valid and the file is there to be read. -/
theorem torn_blocks : Usable torn.nameLimit "s" ∧ torn.file? (fileOf "s") = some [0x7b, 0xC3] ∧
    ∀ cache, torn.load "s" ≠ .ok cache := by
  have hname : Usable torn.nameLimit "s" := by decide
  have hfile : torn.file? (fileOf "s") = some [0x7b, 0xC3] := by decide
  refine ⟨hname, hfile, fun cache hload => ?_⟩
  exact nomatch (blocks_of_not_text hname.1 hfile not_text_torn).load.symm.trans hload

end SessionStore

end RunLog
