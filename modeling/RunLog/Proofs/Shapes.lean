import Mathlib.Data.List.Forall2
import RunLog.Loki.Response

namespace RunLog

theorem mapM_eq_some_iff {α β : Type} {f : α → Option β} {xs : List α} {ys : List β} :
    xs.mapM f = some ys ↔ List.Forall₂ (fun x y => f x = some y) xs ys := by
  induction xs generalizing ys with
  | nil =>
    rw [List.mapM_nil, List.forall₂_nil_left_iff]
    exact ⟨fun h => (Option.some.inj h).symm, fun h => congrArg some h.symm⟩
  | cons x xs ih =>
    rw [List.mapM_cons, List.forall₂_cons_left_iff]
    simp only [Option.bind_eq_bind, Option.bind_eq_some_iff, Option.pure_def, Option.some.injEq, ih]
    constructor
    · rintro ⟨y, hy, more, hmore, rfl⟩
      exact ⟨y, more, hy, hmore, rfl⟩
    · rintro ⟨y, more, hy, hmore, rfl⟩
      exact ⟨y, hy, more, hmore, rfl⟩

namespace Json

/-- The values of the fields that have a name. -/
def named (name : String) (fields : List (Key × Json)) : List Json :=
  (fields.filter fun e => e.1.text = some name).map Prod.snd

/-- A value gives some of the fields of a record, in the order of the slots: as an object in which no field
of them stands twice, or as an array that only ends before fields that may be left out. -/
inductive IsRecord (slots : List Slot) : Json → List (Option Json) → Prop where
  | object {fields : List (Key × Json)} {values : List (Option Json)}
    (keys : ∀ e ∈ fields, e.1.text.isSome = true)
    (once : List.Forall₂ (fun slot value => named slot.name fields = value.toList) slots values) :
    IsRecord slots (.object fields) values
  | array {items : List Json} {values : List (Option Json)} (fits : items.length ≤ slots.length)
    (optional : ∀ slot ∈ slots.drop items.length, slot.optional = true)
    (given : values = items.map some ++ List.replicate (slots.length - items.length) none) :
    IsRecord slots (.array items) values

theorem IsRecord.length_eq {slots : List Slot} {value : Json} {values : List (Option Json)}
    (h : IsRecord slots value values) : values.length = slots.length := by
  cases h with
  | object _ once => exact once.length_eq.symm
  | array fits _ given =>
    rw [given, List.length_append, List.length_map, List.length_replicate, Nat.add_sub_cancel' fits]

theorem named_cons_of_eq {name : String} {key : Key} (h : key.text = some name) (value : Json)
    (fields : List (Key × Json)) : named name ((key, value) :: fields) = value :: named name fields := by
  rw [named, List.filter_cons_of_pos (by simpa using h)]
  rfl

theorem named_cons_of_ne {name : String} {key : Key} (h : key.text ≠ some name) (value : Json)
    (fields : List (Key × Json)) : named name ((key, value) :: fields) = named name fields := by
  rw [named, List.filter_cons_of_neg (by simpa using h)]
  rfl

theorem fieldOnce?_eq_some_iff {name : String} {fields : List (Key × Json)} {value : Option Json} :
    fieldOnce? name fields = some value ↔
      (∀ e ∈ fields, e.1.text.isSome = true) ∧ named name fields = value.toList := by
  induction fields generalizing value with
  | nil => cases value <;> simp [fieldOnce?, named]
  | cons e fields ih =>
    obtain ⟨⟨text, verbatim⟩, first⟩ := e
    rw [fieldOnce?, List.forall_mem_cons]
    cases text with
    | none => exact iff_of_false nofun fun h => nomatch h.1.1
    | some text =>
      by_cases hname : text = name
      · subst hname
        rw [named_cons_of_eq rfl]
        constructor
        · intro h
          cases hlater : fieldOnce? text fields with
          | none =>
            rw [hlater] at h
            exact nomatch h
          | some later =>
            obtain ⟨hkeys, hnamed⟩ := ih.mp hlater
            cases later with
            | some second => simp [hlater] at h
            | none =>
              obtain rfl : some first = value := by simpa [hlater] using h
              exact ⟨⟨rfl, hkeys⟩, congrArg (first :: ·) hnamed⟩
        · rintro ⟨⟨-, hkeys⟩, hnamed⟩
          -- The field stands here, so it stands nowhere behind.
          cases value with
          | none => exact nomatch hnamed
          | some value =>
            obtain ⟨rfl, hnone⟩ := List.cons.inj hnamed
            have hlater : fieldOnce? text fields = some none := ih.mpr ⟨hkeys, hnone⟩
            simp [hlater]
      · rw [named_cons_of_ne fun heq => hname (Option.some.inj heq)]
        constructor
        · intro h
          cases hlater : fieldOnce? name fields with
          | none =>
            rw [hlater] at h
            exact nomatch h
          | some later =>
            obtain ⟨hkeys, hnamed⟩ := ih.mp hlater
            obtain rfl : later = value := by simpa [hlater, hname] using h
            exact ⟨⟨rfl, hkeys⟩, hnamed⟩
        · rintro ⟨⟨-, hkeys⟩, hnamed⟩
          simp [ih.mpr ⟨hkeys, hnamed⟩, hname]

theorem positional?_eq_some_iff {slots : List Slot} {items : List Json} {values : List (Option Json)} :
    positional? slots items = some values ↔ items.length ≤ slots.length ∧
      (∀ slot ∈ slots.drop items.length, slot.optional = true) ∧
      values = items.map some ++ List.replicate (slots.length - items.length) none := by
  induction slots generalizing items values with
  | nil =>
    cases items with
    | cons item items => exact iff_of_false nofun fun h => nomatch h.1
    | nil =>
      constructor
      · intro h
        exact ⟨Nat.le_refl _, nofun, (Option.some.inj h).symm⟩
      · rintro ⟨-, -, rfl⟩
        rfl
  | cons slot slots ih =>
    cases items with
    | nil =>
      rw [positional?]
      by_cases hslot : slot.optional = true
      · rw [if_pos hslot, Option.map_eq_some_iff]
        constructor
        · rintro ⟨others, hothers, rfl⟩
          obtain ⟨-, hoptional, rfl⟩ := ih.mp hothers
          exact ⟨Nat.zero_le _, List.forall_mem_cons.mpr ⟨hslot, hoptional⟩, rfl⟩
        · rintro ⟨-, hoptional, rfl⟩
          have hothers := (List.forall_mem_cons.mp hoptional).2
          exact ⟨_, ih.mpr ⟨Nat.zero_le _, hothers, rfl⟩, rfl⟩
      · rw [if_neg hslot]
        exact iff_of_false nofun fun h => hslot (h.2.1 slot List.mem_cons_self)
    | cons item items =>
      rw [positional?, Option.map_eq_some_iff, List.length_cons, List.length_cons,
        Nat.add_sub_add_right, Nat.add_le_add_iff_right, List.drop_succ_cons]
      constructor
      · rintro ⟨others, hothers, rfl⟩
        obtain ⟨hfits, hoptional, rfl⟩ := ih.mp hothers
        exact ⟨hfits, hoptional, rfl⟩
      · rintro ⟨hfits, hoptional, rfl⟩
        exact ⟨_, ih.mpr ⟨hfits, hoptional, rfl⟩, rfl⟩

/-- A record of at least one slot is read exactly where there is one: without a slot no key is looked at. -/
theorem record?_eq_some_iff {slots : List Slot} (h : slots ≠ []) {value : Json}
    {values : List (Option Json)} : record? slots value = some values ↔ IsRecord slots value values := by
  constructor
  · intro hread
    cases value with
    | object fields =>
      have hall := mapM_eq_some_iff.mp hread
      -- Every slot says that the keys are texts, so the first one does.
      obtain ⟨slot, slots, rfl⟩ := List.exists_cons_of_ne_nil h
      obtain ⟨first, -, hfirst, -, -⟩ := List.forall₂_cons_left_iff.mp hall
      exact .object (fieldOnce?_eq_some_iff.mp hfirst).1
        (hall.imp fun _ _ hfield => (fieldOnce?_eq_some_iff.mp hfield).2)
    | array items =>
      obtain ⟨hfits, hoptional, hgiven⟩ := positional?_eq_some_iff.mp hread
      exact .array hfits hoptional hgiven
    | _ => exact nomatch hread
  · intro hrecord
    cases hrecord with
    | object hkeys honce =>
      exact mapM_eq_some_iff.mpr (honce.imp fun _ _ hnamed => fieldOnce?_eq_some_iff.mpr ⟨hkeys, hnamed⟩)
    | array hfits hoptional hgiven => exact positional?_eq_some_iff.mpr ⟨hfits, hoptional, hgiven⟩

end Json

namespace Loki

namespace QueryResponse

/-- A field that may be left out or be null, and is otherwise as the relation says. -/
inductive IsOptional {α : Type} (relation : Json → α → Prop) : Option Json → Option α → Prop where
  | absent : IsOptional relation none none
  | null : IsOptional relation (some .null) none
  | given {value : Json} {a : α} (related : relation value a) : IsOptional relation (some value) (some a)

/-- A field that may be left out, with an array of what the relation says. -/
inductive IsList {α : Type} (relation : Json → α → Prop) : Option Json → List α → Prop where
  | absent : IsList relation none []
  | given {items : List Json} {values : List α} (related : List.Forall₂ relation items values) :
    IsList relation (some (.array items)) values

def IsText (value : Json) (text : String) : Prop := value = .text text

/-- An entry is an array of values that have a meaning. -/
def IsEntry (value : Json) (entry : List Json) : Prop :=
  value = .array entry ∧ Json.arePlain roomInEntry entry = true

def IsStream (value : Json) (entries : List (List Json)) : Prop :=
  ∃ values, Json.IsRecord [⟨"values", true⟩] value [values] ∧ IsList IsEntry values entries

def IsData (value : Json) (data : QueryData) : Prop :=
  ∃ resultType result, Json.IsRecord [⟨"resultType", true⟩, ⟨"result", true⟩] value [resultType, result] ∧
    IsOptional IsText resultType data.resultType ∧ IsList IsStream result data.streams

def IsAnswer (document : Json) (response : QueryResponse) : Prop :=
  ∃ status data, Json.IsRecord [⟨"status", true⟩, ⟨"data", false⟩] document [status, data] ∧
    IsOptional IsText status response.status ∧ IsOptional IsData data response.data

/-- Reads a field that may be left out or be null. -/
def optionalOf? {α : Type} (read : Json → Option α) : Option Json → Option (Option α)
  | none | some .null => some none
  | some value => (read value).map some

/-- Reads a field that may be left out, with an array. -/
def listOf? {α : Type} (read : Json → Option α) : Option Json → Option (List α)
  | none => some []
  | some value => value.items?.bind fun items => items.mapM read

section Fields

variable {α : Type} {read : Json → Option α} {relation : Json → α → Prop} {field : Option Json}

theorem optionalOf?_of_ne_null {value : Json} (h : value ≠ .null) :
    optionalOf? read (some value) = (read value).map some := by
  cases value with
  | null => exact absurd rfl h
  | _ => rfl

variable (h : ∀ value a, read value = some a ↔ relation value a)

include h

theorem optionalOf?_eq_some_iff (hnull : ∀ a, ¬ relation .null a) {found : Option α} :
    optionalOf? read field = some found ↔ IsOptional relation field found := by
  constructor
  · intro hread
    unfold optionalOf? at hread
    split at hread
    · rw [← Option.some.inj hread]
      exact .absent
    · rw [← Option.some.inj hread]
      exact .null
    · obtain ⟨a, ha, rfl⟩ := Option.map_eq_some_iff.mp hread
      exact .given ((h _ a).mp ha)
  · intro hfield
    cases hfield with
    | absent => rfl
    | null => rfl
    | @given value a related =>
      cases value with
      | null => exact absurd related (hnull a)
      | _ => exact congrArg (Option.map some) ((h _ a).mpr related)

theorem listOf?_eq_some_iff {values : List α} :
    listOf? read field = some values ↔ IsList relation field values := by
  have hrelation : (fun value a => read value = some a) = relation := by
    funext value a
    exact propext (h value a)
  constructor
  · intro hread
    cases field with
    | none =>
      rw [← Option.some.inj hread]
      exact .absent
    | some value =>
      cases value with
      | array items => exact .given (hrelation ▸ mapM_eq_some_iff.mp hread)
      | _ => exact nomatch hread
  · intro hlist
    cases hlist with
    | absent => rfl
    | given related => exact mapM_eq_some_iff.mpr (hrelation ▸ related)

end Fields

theorem optionalText?_eq_some_iff {field : Option Json} {text : Option String} :
    optionalText? field = some text ↔ IsOptional IsText field text := by
  have hread : ∀ value s, Json.text? value = some s ↔ IsText value s := by
    intro value s
    cases value with
    | string content => simp [Json.text?, IsText, Json.text]
    | _ => exact iff_of_false nofun nofun
  have hsame : optionalText? field = optionalOf? Json.text? field := by
    unfold optionalText?
    split
    · rfl
    · rfl
    · rfl
    · next value hnull htext =>
      rw [optionalOf?_of_ne_null hnull]
      cases value with
      | string content =>
        cases content with
        | none => rfl
        | some s => exact absurd rfl (htext s)
      | _ => rfl
  rw [hsame, optionalOf?_eq_some_iff hread nofun]

theorem entry?_eq_some_iff (value : Json) (entry : List Json) :
    entry? value = some entry ↔ IsEntry value entry := by
  constructor
  · intro h
    cases value with
    | array items =>
      by_cases hplain : Json.arePlain roomInEntry items = true
      · obtain rfl : items = entry := by simpa [Json.items?, hplain, entry?] using h
        exact ⟨rfl, hplain⟩
      · simp [Json.items?, hplain, entry?] at h
    | _ => exact nomatch h
  · rintro ⟨rfl, hplain⟩
    simp [Json.items?, hplain, entry?]

theorem stream?_of_record {value : Json} {values : Option Json}
    (h : Json.record? [⟨"values", true⟩] value = some [values]) :
    stream? value = listOf? entry? values := by
  rw [stream?, h]
  cases values <;> rfl

theorem stream?_eq_some_iff (value : Json) (entries : List (List Json)) :
    stream? value = some entries ↔ IsStream value entries := by
  have hrecord {values : List (Option Json)} : Json.record? [⟨"values", true⟩] value = some values ↔
      Json.IsRecord [⟨"values", true⟩] value values := Json.record?_eq_some_iff (List.cons_ne_nil _ _)
  constructor
  · intro h
    obtain ⟨fields, hread, -⟩ := Option.bind_eq_some_iff.mp h
    obtain ⟨values, rfl⟩ := List.length_eq_one_iff.mp (hrecord.mp hread).length_eq
    rw [stream?_of_record hread] at h
    exact ⟨values, hrecord.mp hread, (listOf?_eq_some_iff entry?_eq_some_iff).mp h⟩
  · rintro ⟨values, hread, hentries⟩
    rw [stream?_of_record (hrecord.mpr hread)]
    exact (listOf?_eq_some_iff entry?_eq_some_iff).mpr hentries

theorem data?_of_record {value : Json} {resultType result : Option Json}
    (h : Json.record? [⟨"resultType", true⟩, ⟨"result", true⟩] value = some [resultType, result]) :
    data? value = (optionalText? resultType).bind fun resultType =>
      (listOf? stream? result).map fun streams => { resultType, streams } := by
  rw [data?, h]
  dsimp only [Option.bind_eq_bind, Option.bind_some]
  cases optionalText? resultType with
  | none => rfl
  | some type =>
    cases result with
    | none => rfl
    | some result =>
      dsimp only [Option.bind_some, listOf?]
      cases result.items? with
      | none => rfl
      | some items =>
        dsimp only [Option.bind_some]
        cases items.mapM stream? <;> rfl

theorem data?_eq_some_iff (value : Json) (data : QueryData) :
    data? value = some data ↔ IsData value data := by
  have hrecord {values : List (Option Json)} :
      Json.record? [⟨"resultType", true⟩, ⟨"result", true⟩] value = some values ↔
        Json.IsRecord [⟨"resultType", true⟩, ⟨"result", true⟩] value values :=
    Json.record?_eq_some_iff (List.cons_ne_nil _ _)
  constructor
  · intro h
    obtain ⟨fields, hread, -⟩ := Option.bind_eq_some_iff.mp h
    obtain ⟨resultType, result, rfl⟩ := List.length_eq_two.mp (hrecord.mp hread).length_eq
    rw [data?_of_record hread] at h
    obtain ⟨type, htype, h⟩ := Option.bind_eq_some_iff.mp h
    obtain ⟨streams, hstreams, rfl⟩ := Option.map_eq_some_iff.mp h
    exact ⟨resultType, result, hrecord.mp hread, optionalText?_eq_some_iff.mp htype,
      (listOf?_eq_some_iff stream?_eq_some_iff).mp hstreams⟩
  · rintro ⟨resultType, result, hread, htype, hstreams⟩
    rw [data?_of_record (hrecord.mpr hread), optionalText?_eq_some_iff.mpr htype,
      (listOf?_eq_some_iff stream?_eq_some_iff).mpr hstreams]
    rfl

theorem ofJson?_of_record {document : Json} {status data : Option Json}
    (h : Json.record? [⟨"status", true⟩, ⟨"data", false⟩] document = some [status, data]) :
    ofJson? document = (optionalText? status).bind fun status =>
      (optionalOf? data? data).map fun data => { status, data } := by
  rw [ofJson?, h]
  dsimp only [Option.bind_eq_bind, Option.bind_some]
  cases optionalText? status with
  | none => rfl
  | some text =>
    dsimp only [Option.bind_some]
    split
    · rfl
    · rfl
    · next value hnull =>
      rw [optionalOf?_of_ne_null hnull]
      cases data? value <;> rfl

/-- The documents that are read as answers are those of the shape of one. -/
theorem ofJson?_eq_some_iff {document : Json} {response : QueryResponse} :
    ofJson? document = some response ↔ IsAnswer document response := by
  have hrecord {values : List (Option Json)} :
      Json.record? [⟨"status", true⟩, ⟨"data", false⟩] document = some values ↔
        Json.IsRecord [⟨"status", true⟩, ⟨"data", false⟩] document values :=
    Json.record?_eq_some_iff (List.cons_ne_nil _ _)
  have hnull : ∀ data, ¬ IsData .null data := nofun
  constructor
  · intro h
    obtain ⟨fields, hread, -⟩ := Option.bind_eq_some_iff.mp h
    obtain ⟨status, data, rfl⟩ := List.length_eq_two.mp (hrecord.mp hread).length_eq
    rw [ofJson?_of_record hread] at h
    obtain ⟨text, hstatus, h⟩ := Option.bind_eq_some_iff.mp h
    obtain ⟨found, hdata, rfl⟩ := Option.map_eq_some_iff.mp h
    exact ⟨status, data, hrecord.mp hread, optionalText?_eq_some_iff.mp hstatus,
      (optionalOf?_eq_some_iff data?_eq_some_iff hnull).mp hdata⟩
  · rintro ⟨status, data, hread, hstatus, hdata⟩
    rw [ofJson?_of_record (hrecord.mpr hread), optionalText?_eq_some_iff.mpr hstatus,
      (optionalOf?_eq_some_iff data?_eq_some_iff hnull).mpr hdata]
    rfl

end QueryResponse

end Loki

end RunLog
