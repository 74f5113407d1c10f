import RunLog.Proofs.JsonText
import RunLog.Proofs.Snapshots

namespace RunLog

open Json

/-- What was written item by item is read item by item. -/
theorem mapM_map_eq_some {α β : Type} {write : α → β} {read : β → Option α} {xs : List α}
    (h : ∀ x ∈ xs, read (write x) = some x) : (xs.map write).mapM read = some xs := by
  induction xs with
  | nil => rfl
  | cons x xs ih =>
    rw [List.map_cons, List.mapM_cons, h x List.mem_cons_self,
      ih fun x hx => h x (List.mem_cons_of_mem _ hx)]
    rfl

theorem isBare_toString (n : Nat) : IsBare (toString n) := by
  have hdigit : ∀ d < 10, escapeChar (Nat.digitChar d) = [Nat.digitChar d] := by decide
  have hall : ∀ c ∈ Json.decimal n, escapeChar c = [c] := by
    refine decimal_induction (motive := fun _ text => ∀ c ∈ text, escapeChar c = [c]) ?_ ?_ n
    · exact fun d hd => List.forall_mem_singleton.mpr (hdigit d hd)
    · intro n d _ hd hn
      exact List.forall_mem_append.mpr ⟨hn, List.forall_mem_singleton.mpr (hdigit d hd)⟩
  rw [IsBare, toList_toString]
  exact List.all_eq_true.mpr fun c hc => decide_eq_true (hall c hc)

theorem written_textOrNull (s : Option String) : Written (textOrNull s) := by
  cases s with
  | none => exact .null
  | some s => exact .text s

/-- A record is read back as it was written if its names need no escapes and its values are. -/
theorem written_record {entries : List (String × Json)}
    (hnames : ∀ name ∈ entries.map Prod.fst, IsBare name)
    (hvalues : ∀ value ∈ entries.map Prod.snd, Written value) : Written (Json.fields entries) :=
  Written.fields entries (fun _ he => hnames _ (List.mem_map_of_mem he))
    fun _ he => hvalues _ (List.mem_map_of_mem he)

theorem written_field {name : String} {value : Json} (hname : IsBare name) (h : Written value) :
    Written (Json.fields [(name, value)]) :=
  written_record (fun _ hmem => List.mem_singleton.mp hmem ▸ hname)
    fun _ hmem => List.mem_singleton.mp hmem ▸ h

theorem StreamKey.written_toJson (key : StreamKey) : Written key.toJson := by
  have hnames : ∀ name ∈ ["pipeline_id", "run_number", "step_id"], IsBare name := by decide
  have hvalues : ∀ value ∈ [.text key.pipeline, .nat key.run.toNat, textOrNull key.step],
      Written value := by
    simp only [List.forall_mem_cons, List.not_mem_nil, false_imp_iff, implies_true, and_true]
    exact ⟨.text _, .nat _, written_textOrNull _⟩
  rw [toJson]
  exact written_record hnames hvalues

def idOrNull : Option LineId → Json
  | some id => .nat id.nanos.toNat
  | none => .null

theorem written_idOrNull (id : Option LineId) : Written (idOrNull id) := by
  cases id with
  | none => exact .null
  | some id => exact .nat _

theorem ResumePoint.toJson_eq (point : ResumePoint) : point.toJson =
    .fields [("after", idOrNull point.after), ("partial", .nat point.intoNext.toNat)] := by
  obtain ⟨_ | id, intoNext⟩ := point <;> rfl

theorem ResumePoint.written_toJson (point : ResumePoint) : Written point.toJson := by
  have hnames : ∀ name ∈ ["after", "partial"], IsBare name := by decide
  have hvalues : ∀ value ∈ [idOrNull point.after, .nat point.intoNext.toNat], Written value := by
    simp only [List.forall_mem_cons, List.not_mem_nil, false_imp_iff, implies_true, and_true]
    exact ⟨written_idOrNull _, .nat _⟩
  rw [toJson_eq]
  exact written_record hnames hvalues

theorem OffsetMap.written_toJson (map : OffsetMap) : Written map.toJson := by
  apply Written.fields
  · intro e he
    obtain ⟨entry, -, rfl⟩ := List.mem_map.mp he
    exact isBare_toString entry.1.toNat
  · intro e he
    obtain ⟨entry, -, rfl⟩ := List.mem_map.mp he
    exact entry.2.written_toJson

theorem CursorSnapshot.written_toJson (snapshot : CursorSnapshot) : Written snapshot.toJson := by
  have hstream : ∀ e : StreamKey × OffsetMap,
      Written (fields [("key", e.1.toJson), ("offsets", e.2.toJson)]) := by
    intro e
    have hnames : ∀ name ∈ ["key", "offsets"], IsBare name := by decide
    have hvalues : ∀ value ∈ [e.1.toJson, e.2.toJson], Written value := by
      simp only [List.forall_mem_cons, List.not_mem_nil, false_imp_iff, implies_true, and_true]
      exact ⟨e.1.written_toJson, e.2.written_toJson⟩
    exact written_record hnames hvalues
  have hnames : ∀ name ∈ ["streams"], IsBare name := by decide
  have hstreams : ∀ value ∈ [.array (snapshot.streams.map fun e : StreamKey × OffsetMap =>
      fields [("key", e.1.toJson), ("offsets", e.2.toJson)])], Written value := by
    intro value hvalue
    rw [List.mem_singleton.mp hvalue]
    apply Written.array
    intro item hitem
    obtain ⟨e, -, rfl⟩ := List.mem_map.mp hitem
    exact hstream e
  rw [toJson]
  exact written_record hnames hstreams

theorem natural?_nat (word : UInt64) :
    (Json.nat word.toNat).natural? Numeral.greatestWord = some word.toNat := by
  have hle : word.toNat ≤ Numeral.greatestWord := Nat.le_of_lt_succ word.toNat_lt
  simp [Json.natural?, Json.nat, Numeral.natural?, Numeral.ofNat, Numeral.isInteger, hle]

theorem StreamKey.ofJson?_toJson (key : StreamKey) : ofJson? key.toJson = some key := by
  obtain ⟨pipeline, run, step⟩ := key
  have hrecord : record? [⟨"pipeline_id", false⟩, ⟨"run_number", false⟩, ⟨"step_id", false⟩]
      (toJson ⟨pipeline, run, step⟩) =
      some [some (.text pipeline), some (.nat run.toNat), some (textOrNull step)] := by
    simp [record?, toJson, Json.fields, fieldOnce?]
  rw [ofJson?, hrecord]
  cases step with
  | none => simp [Json.text?, Json.text, natural?_nat, textOrNull, Json.orNone]
  | some step => simp [Json.text?, Json.text, natural?_nat, textOrNull, Json.orNone]

theorem orNone_nat (n : Nat) : (Json.nat n).orNone = some (.nat n) := rfl

theorem ResumePoint.ofJson?_toJson (point : ResumePoint) : ofJson? point.toJson = some point := by
  have hrecord : record? [⟨"after", false⟩, ⟨"partial", true⟩] point.toJson =
      some [some (idOrNull point.after), some (.nat point.intoNext.toNat)] := by
    rw [toJson_eq]
    simp [record?, Json.fields, fieldOnce?]
  rw [ofJson?, hrecord]
  obtain ⟨_ | id, intoNext⟩ := point
  · simp [natural?_nat, idOrNull, Json.orNone]
  · simp [natural?_nat, idOrNull, orNone_nat]

/-- A resume point that is written without a count of bytes has none of the next line. -/
theorem ResumePoint.ofJson?_of_missing (after : Option LineId) :
    ofJson? (.fields [("after", idOrNull after)]) = some ⟨after, 0⟩ := by
  have hrecord : record? [⟨"after", false⟩, ⟨"partial", true⟩]
      (.fields [("after", idOrNull after)]) = some [some (idOrNull after), none] := by
    simp [record?, Json.fields, fieldOnce?]
  rw [ofJson?, hrecord]
  cases after with
  | none => simp [idOrNull, Json.orNone]
  | some id => simp [natural?_nat, idOrNull, orNone_nat]

namespace OffsetMap

theorem offset?_toString (offset : UInt64) :
    offset? ⟨some (toString offset.toNat), true⟩ = some offset := by
  have hnumber : Token.scanNumber false (decimal offset.toNat ++ []) =
      some (.ofNat offset.toNat, []) := scanNumber_decimal offset.toNat trivial
  have htext : (toString offset.toNat).toList = decimal offset.toNat ++ [] := by
    rw [toList_toString, List.append_nil]
  have hnatural : (Numeral.ofNat offset.toNat).natural? Numeral.greatestWord = some offset.toNat :=
    natural?_nat offset
  simp only [offset?, htext, hnumber, hnatural, Option.map_some, UInt64.ofNat_toNat]

theorem insertEntry_of_last {offset : UInt64} {point : ResumePoint}
    {entries : List (UInt64 × ResumePoint)} (h : ∀ e ∈ entries, e.1 < offset) :
    insertEntry offset point entries = entries ++ [(offset, point)] := by
  induction entries with
  | nil => rfl
  | cons e rest ih =>
    have hlt := h e List.mem_cons_self
    rw [insertEntry, if_neg (UInt64.lt_asymm hlt), if_neg (UInt64.ne_of_lt hlt).symm,
      ih fun e he => h e (List.mem_cons_of_mem _ he)]
    rfl

theorem Ascending.ofList_entries {map : OffsetMap} (h : map.Ascending) : ofList map.entries = map := by
  -- By induction on the entries to come: each one is greater than all before it and goes to the end.
  have hfold : ∀ before behind : List (UInt64 × ResumePoint),
      (before ++ behind).Pairwise (fun a b => a.1 < b.1) →
      behind.foldl (fun map entry => OffsetMap.insert map entry.1 entry.2) ⟨before⟩ =
        ⟨before ++ behind⟩ := by
    intro before behind
    induction behind generalizing before with
    | nil => exact fun _ => congrArg mk (List.append_nil _).symm
    | cons e behind ih =>
      intro hordered
      have hlast : ∀ a ∈ before, a.1 < e.1 := fun a ha =>
        (List.pairwise_append.mp hordered).2.2 a ha e List.mem_cons_self
      rw [List.append_cons] at hordered ⊢
      rw [List.foldl_cons, OffsetMap.insert, insertEntry_of_last hlast]
      exact ih _ hordered
  exact hfold [] map.entries h

theorem Ascending.ofJson?_toJson {map : OffsetMap} (h : map.Ascending) :
    ofJson? map.toJson = some map := by
  have hentries : (map.entries.map fun e =>
      ((⟨some (toString e.1.toNat), true⟩ : Key), e.2.toJson)).mapM (fun field => do
        return (← offset? field.1, ← ResumePoint.ofJson? field.2)) = some map.entries := by
    apply mapM_map_eq_some
    intro e _
    simp only [offset?_toString, ResumePoint.ofJson?_toJson]
    rfl
  rw [toJson, Json.fields, List.map_map, ofJson?]
  exact (congrArg (Option.bind · fun entries => some (ofList entries)) hentries).trans
    (congrArg some h.ofList_entries)

end OffsetMap

namespace CursorSnapshot

/-- A snapshot whose offsets stand in order is read back as it was. -/
theorem ofJson?_toJson {snapshot : CursorSnapshot} (h : ∀ e ∈ snapshot.streams, e.2.Ascending) :
    ofJson? snapshot.toJson = some snapshot := by
  have hstreams : (snapshot.streams.map fun e =>
      Json.fields [("key", e.1.toJson), ("offsets", e.2.toJson)]).mapM stream? =
        some snapshot.streams := by
    apply mapM_map_eq_some
    intro e he
    have hrecord : record? [⟨"key", false⟩, ⟨"offsets", false⟩]
        (Json.fields [("key", e.1.toJson), ("offsets", e.2.toJson)]) =
        some [some e.1.toJson, some e.2.toJson] := by
      simp [record?, Json.fields, fieldOnce?]
    rw [stream?, hrecord]
    simp only [Option.bind_eq_bind, Option.bind_some, StreamKey.ofJson?_toJson,
      (h e he).ofJson?_toJson]
    rfl
  have hrecord : record? [⟨"streams", false⟩] snapshot.toJson =
      some [some (.array (snapshot.streams.map fun e =>
        Json.fields [("key", e.1.toJson), ("offsets", e.2.toJson)]))] := by
    simp [record?, toJson, Json.fields, fieldOnce?]
  rw [ofJson?, hrecord]
  simp only [Option.bind_eq_bind, Option.bind_some, Json.items?, hstreams]
  rfl

theorem parse?_toCompact {snapshot : CursorSnapshot} (h : ∀ e ∈ snapshot.streams, e.2.Ascending) :
    parse? snapshot.toJson.toCompact.toList = some snapshot := by
  rw [parse?, toCompact, String.toList_ofList, snapshot.written_toJson.parse?_compact,
    Option.bind_some, ofJson?_toJson h]

theorem parse?_toPretty {snapshot : CursorSnapshot} (h : ∀ e ∈ snapshot.streams, e.2.Ascending) :
    parse? snapshot.toJson.toPretty.toList = some snapshot := by
  rw [parse?, toPretty, String.toList_ofList, snapshot.written_toJson.parse?_pretty,
    Option.bind_some, ofJson?_toJson h]

end CursorSnapshot

namespace CursorCache

variable {cache other : CursorCache}

/-- What the operations on a cache can make of it. -/
inductive Reachable : CursorCache → Prop where
  | empty : Reachable .empty
  | hold {cache : CursorCache} (h : Reachable cache) (key : StreamKey) : Reachable (cache.hold key).2
  | put {cache : CursorCache} (h : Reachable cache) (key : StreamKey) (offset : UInt64)
    (point : ResumePoint) : Reachable (cache.put key offset point)
  | record {cache : CursorCache} (h : Reachable cache) (handle : Handle) (offset : UInt64)
    (point : ResumePoint) : Reachable (cache.record handle offset point)
  | forget {cache : CursorCache} (h : Reachable cache) (key : StreamKey) :
    Reachable (cache.forget key).2
  | ofSnapshot (snapshot : CursorSnapshot) (h : ∀ e ∈ snapshot.streams, e.2.Ascending) :
    Reachable (ofSnapshot snapshot)

theorem Reachable.orderly (h : cache.Reachable) : cache.Orderly := by
  induction h with
  | empty => exact orderly_empty
  | hold _ key ih => exact ih.hold key
  | put _ key offset point ih => exact ih.put key offset point
  | record _ handle offset point ih => exact ih.record handle offset point
  | forget _ key ih => exact ih.forget key
  | ofSnapshot snapshot h => exact orderly_ofSnapshot h

theorem Orderly.ascending_of_mem_snapshot (h : cache.Orderly) :
    ∀ e ∈ cache.snapshot.streams, e.2.Ascending :=
  fun _ he => (h.mem_snapshot_iff.mp he).1

theorem Orderly.snapshot_ofSnapshot (h : cache.Orderly) :
    (ofSnapshot cache.snapshot).snapshot = cache.snapshot :=
  (orderly_ofSnapshot h.ascending_of_mem_snapshot).snapshot_eq h h.wellFormed.get?_ofSnapshot

/-- The text of a cache, in one line or in many, is read back to a cache that answers alike, knows as
many streams, and has the same text; and the text depends on nothing but the answers. A resume point
may leave out a count of zero bytes. -/
theorem text_of_cache (h : cache.Reachable) :
    (∀ write ∈ [toCompact, toPretty], ∃ snapshot,
      CursorSnapshot.parse? (write cache.snapshot.toJson).toList = some snapshot ∧
      (∀ key offset, (ofSnapshot snapshot).get? key offset = cache.get? key offset) ∧
      (ofSnapshot snapshot).size = cache.size ∧
      write (ofSnapshot snapshot).snapshot.toJson = write cache.snapshot.toJson) ∧
    (∀ other : CursorCache, other.Reachable →
      (∀ key offset, other.get? key offset = cache.get? key offset) →
      ∀ write ∈ [toCompact, toPretty], write other.snapshot.toJson = write cache.snapshot.toJson) ∧
    ∀ after, ResumePoint.ofJson? (.fields [("after", idOrNull after)]) = some ⟨after, 0⟩ := by
  have horderly := h.orderly
  have hascending := horderly.ascending_of_mem_snapshot
  refine ⟨fun write hwrite => ⟨cache.snapshot, ?_, ?_, ?_, ?_⟩, ?_, ResumePoint.ofJson?_of_missing⟩
  · rcases List.mem_cons.mp hwrite with rfl | hwrite
    · exact CursorSnapshot.parse?_toCompact hascending
    · rw [List.mem_singleton.mp hwrite]
      exact CursorSnapshot.parse?_toPretty hascending
  · exact horderly.wellFormed.get?_ofSnapshot
  · have hback := (wellFormed_ofSnapshot cache.snapshot).length_snapshot
    rw [← hback, horderly.snapshot_ofSnapshot, horderly.wellFormed.length_snapshot]
  · rw [horderly.snapshot_ofSnapshot]
  · intro other hother hget write _
    rw [hother.orderly.snapshot_eq horderly hget]

/-- A stream whose names need escapes, and one that was held and never written to. -/
def escapedCache : CursorCache :=
  ((CursorCache.empty.put ⟨"a\"b\n", 1, some "é"⟩ 5 ⟨some ⟨7⟩, 2⟩).hold ⟨"idle", 2, none⟩).2

theorem text_of_cache_escaped :
    escapedCache.Reachable ∧
    (∃ snapshot, CursorSnapshot.parse? escapedCache.snapshot.toJson.toCompact.toList = some snapshot ∧
      (ofSnapshot snapshot).get? ⟨"a\"b\n", 1, some "é"⟩ 5 = some ⟨some ⟨7⟩, 2⟩ ∧
      (ofSnapshot snapshot).size = 1) ∧
    (CursorCache.empty.put ⟨"a\"b\n", 1, some "é"⟩ 5 ⟨some ⟨7⟩, 2⟩).snapshot.toJson.toCompact =
      escapedCache.snapshot.toJson.toCompact := by
  have hput := Reachable.empty.put ⟨"a\"b\n", 1, some "é"⟩ 5 ⟨some ⟨7⟩, 2⟩
  have hescaped : escapedCache.Reachable := hput.hold ⟨"idle", 2, none⟩
  obtain ⟨hback, hsame, -⟩ := text_of_cache hescaped
  obtain ⟨snapshot, hparse, hget, hsize, -⟩ := hback toCompact List.mem_cons_self
  refine ⟨hescaped, ⟨snapshot, hparse, ?_, ?_⟩, ?_⟩
  · exact (hget _ _).trans (by decide)
  · exact hsize.trans (by decide)
  · exact hsame _ hput (fun key offset => (get?_hold _ _ key offset).symm) _ List.mem_cons_self

end CursorCache

end RunLog
