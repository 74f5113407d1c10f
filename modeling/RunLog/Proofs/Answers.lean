import RunLog.Proofs.Persistence
import RunLog.Proofs.Shapes

namespace RunLog

namespace Text

/-! ### Numbers in decimal -/

/-- The characters are digits with a value, the first of which may stand behind a plus sign. -/
def IsDecimal (text : String) (n : UInt64) : Prop :=
  ∃ digits : List Nat, digits ≠ [] ∧ (∀ d ∈ digits, d < 10) ∧
    (text.toList = digits.map Nat.digitChar ∨ text.toList = '+' :: digits.map Nat.digitChar) ∧
    Json.Token.ofDigits digits = n.toNat

theorem digit?_eq_some_iff {c : Char} {d : Nat} : digit? c = some d ↔ d < 10 ∧ c = d.digitChar := by
  constructor
  · intro h
    rw [digit?] at h
    split at h
    · next hbounds =>
      have hleast : 48 ≤ c.toNat := UInt32.le_iff_toNat_le.mp hbounds.1
      have hgreatest : c.toNat ≤ 57 := UInt32.le_iff_toNat_le.mp hbounds.2
      obtain rfl := Option.some.inj h
      refine ⟨by omega, ?_⟩
      rw [← Char.toNat_inj, Nat.toNat_digitChar_of_lt_ten (by omega)]
      omega
    · exact nomatch h
  · rintro ⟨hd, rfl⟩
    exact Json.digit?_digitChar d hd

theorem digitsFrom_eq_some_iff {n m : Nat} {cs : List Char} : digitsFrom n cs = some m ↔
    ∃ digits : List Nat, (∀ d ∈ digits, d < 10) ∧ cs = digits.map Nat.digitChar ∧
      digits.foldl (fun n d => n * 10 + d) n = m := by
  induction cs generalizing n with
  | nil =>
    constructor
    · intro h
      exact ⟨[], nofun, rfl, Option.some.inj h⟩
    · rintro ⟨digits, -, hnone, hvalue⟩
      obtain rfl := List.map_eq_nil_iff.mp hnone.symm
      exact congrArg some hvalue
  | cons c cs ih =>
    rw [digitsFrom]
    constructor
    · intro h
      split at h
      · next d hd =>
        obtain ⟨hten, rfl⟩ := digit?_eq_some_iff.mp hd
        obtain ⟨digits, hall, rfl, hvalue⟩ := ih.mp h
        exact ⟨d :: digits, List.forall_mem_cons.mpr ⟨hten, hall⟩, rfl, hvalue⟩
      · exact nomatch h
    · rintro ⟨digits, hall, hchars, hvalue⟩
      obtain ⟨d, digits, rfl, rfl, rfl⟩ := List.map_eq_cons_iff.mp hchars.symm
      obtain ⟨hten, hall⟩ := List.forall_mem_cons.mp hall
      rw [digit?_eq_some_iff.mpr ⟨hten, rfl⟩]
      exact ih.mpr ⟨digits, hall, rfl, hvalue⟩

theorem digits?_eq_some_iff {cs : List Char} {m : Nat} : digits? cs = some m ↔
    ∃ digits : List Nat, digits ≠ [] ∧ (∀ d ∈ digits, d < 10) ∧ cs = digits.map Nat.digitChar ∧
      Json.Token.ofDigits digits = m := by
  cases cs with
  | nil =>
    refine iff_of_false nofun ?_
    rintro ⟨digits, hne, -, hnone, -⟩
    exact hne (List.map_eq_nil_iff.mp hnone.symm)
  | cons c cs =>
    rw [digits?, digitsFrom_eq_some_iff]
    · constructor
      · rintro ⟨digits, hall, hchars, hvalue⟩
        refine ⟨digits, ?_, hall, hchars, hvalue⟩
        rintro rfl
        exact nomatch hchars
      · rintro ⟨digits, -, hall, hchars, hvalue⟩
        exact ⟨digits, hall, hchars, hvalue⟩
    · exact nofun

/-- The characters of a text behind a plus sign that stands first. -/
def unsigned : List Char → List Char
  | '+' :: rest => rest
  | cs => cs

theorem unsigned_eq_iff {cs : List Char} {digits : List Nat} (hne : digits ≠ [])
    (h : ∀ d ∈ digits, d < 10) : unsigned cs = digits.map Nat.digitChar ↔
      cs = digits.map Nat.digitChar ∨ cs = '+' :: digits.map Nat.digitChar := by
  have hsign : ∀ d < 10, d.digitChar ≠ '+' := by decide
  constructor
  · intro hchars
    unfold unsigned at hchars
    split at hchars
    · exact .inr (congrArg _ hchars)
    · exact .inl hchars
  · rintro (rfl | rfl)
    · obtain ⟨d, digits, rfl⟩ := List.exists_cons_of_ne_nil hne
      rw [List.map_cons, unsigned]
      exact fun rest hcons => hsign d (h d List.mem_cons_self) (List.cons.inj hcons).1
    · rfl

theorem word?_eq_some_iff {text : String} {n : UInt64} : word? text = some n ↔ IsDecimal text n := by
  have hword : word? text = ((digits? (unsigned text.toList)).bind fun m =>
      if m ≤ 18446744073709551615 then some m else none).map UInt64.ofNat := rfl
  have hsmall : n.toNat ≤ 18446744073709551615 := Nat.le_of_lt_succ n.toNat_lt
  rw [hword, IsDecimal]
  constructor
  · intro h
    obtain ⟨m, hm, rfl⟩ := Option.map_eq_some_iff.mp h
    obtain ⟨value, hdigits, hbound⟩ := Option.bind_eq_some_iff.mp hm
    split at hbound
    · next hle =>
      obtain rfl := Option.some.inj hbound
      obtain ⟨digits, hne, hall, hchars, hvalue⟩ := digits?_eq_some_iff.mp hdigits
      refine ⟨digits, hne, hall, (unsigned_eq_iff hne hall).mp hchars, ?_⟩
      rw [hvalue, UInt64.toNat_ofNat_of_lt' (Nat.lt_succ_of_le hle)]
    · exact nomatch hbound
  · rintro ⟨digits, hne, hall, hchars, hvalue⟩
    have hdigits : digits? (unsigned text.toList) = some n.toNat :=
      digits?_eq_some_iff.mpr ⟨digits, hne, hall, (unsigned_eq_iff hne hall).mpr hchars, hvalue⟩
    rw [hdigits, Option.bind_some, if_pos hsmall, Option.map_some, UInt64.ofNat_toNat]

/-- A sign alone is no number, and neither is one that no word holds. -/
example : ["007", "+7", "18446744073709551615", "18446744073709551616", "+", "", "-7"].map word? =
    [some 7, some 7, some 18446744073709551615, none, none, none, none] := by decide

theorem isDecimal_toString (n : UInt64) : IsDecimal (toString n.toNat) n := by
  have hdigits : ∃ digits : List Nat, digits ≠ [] ∧ (∀ d ∈ digits, d < 10) ∧
      Json.decimal n.toNat = digits.map Nat.digitChar ∧ Json.Token.ofDigits digits = n.toNat := by
    refine Json.decimal_induction (motive := fun n text => ∃ digits : List Nat, digits ≠ [] ∧
      (∀ d ∈ digits, d < 10) ∧ text = digits.map Nat.digitChar ∧ Json.Token.ofDigits digits = n) ?_ ?_ _
    · intro d hd
      exact ⟨[d], nofun, List.forall_mem_singleton.mpr hd, rfl, Nat.zero_add d⟩
    · rintro n d - hd ⟨digits, -, hall, hchars, hvalue⟩
      refine ⟨digits ++ [d], List.concat_ne_nil _ _, ?_, ?_, ?_⟩
      · exact List.forall_mem_append.mpr ⟨hall, List.forall_mem_singleton.mpr hd⟩
      · rw [hchars, List.map_append]
        rfl
      · rw [Json.ofDigits_concat, hvalue]
  obtain ⟨digits, hne, hall, hchars, hvalue⟩ := hdigits
  exact ⟨digits, hne, hall, .inl ((Json.toList_toString _).trans hchars), hvalue⟩

end Text

namespace Loki

/-! ### Taking lines -/

/-- What `mapM` gives where it does not fail. -/
theorem mapM_cons_eq_ok {α β ε : Type} {f : α → Except ε β} {x : α} {xs : List α} {ys : List β} :
    (x :: xs).mapM f = .ok ys ↔ ∃ y more, f x = .ok y ∧ xs.mapM f = .ok more ∧ ys = y :: more := by
  rw [List.mapM_cons]
  cases f x with
  | error e => exact iff_of_false nofun fun ⟨_, _, h, _⟩ => nomatch h
  | ok y =>
    cases xs.mapM f with
    | error e => exact iff_of_false nofun fun ⟨_, _, _, h, _⟩ => nomatch h
    | ok more =>
      constructor
      · intro h
        exact ⟨y, more, rfl, rfl, (Except.ok.inj h).symm⟩
      · rintro ⟨_, _, hy, hmore, rfl⟩
        rw [Except.ok.inj hy, Except.ok.inj hmore]
        rfl

theorem mapM_eq_ok_iff {α β ε : Type} {f : α → Except ε β} {xs : List α} {ys : List β} :
    xs.mapM f = .ok ys ↔ List.Forall₂ (fun x y => f x = .ok y) xs ys := by
  induction xs generalizing ys with
  | nil =>
    rw [List.mapM_nil, List.forall₂_nil_left_iff]
    exact ⟨fun h => (Except.ok.inj h).symm, fun h => congrArg Except.ok h.symm⟩
  | cons x xs ih =>
    simp only [mapM_cons_eq_ok, List.forall₂_cons_left_iff, ih]

/-- The first element that fails ends the work. -/
theorem mapM_eq_error_iff {α β ε : Type} {f : α → Except ε β} {xs : List α} {e : ε} :
    xs.mapM f = .error e ↔ ∃ before x behind, xs = before ++ x :: behind ∧
      (∀ y ∈ before, ∃ z, f y = .ok z) ∧ f x = .error e := by
  induction xs with
  | nil =>
    refine iff_of_false nofun ?_
    rintro ⟨before, x, behind, hnil, -⟩
    exact List.append_ne_nil_of_right_ne_nil before (List.cons_ne_nil x behind) hnil.symm
  | cons x xs ih =>
    rw [List.mapM_cons]
    cases hx : f x with
    | error e' =>
      constructor
      · intro h
        exact ⟨[], x, xs, rfl, nofun, hx.trans (congrArg Except.error (Except.error.inj h))⟩
      · rintro ⟨before, y, behind, hsplit, hgood, hy⟩
        cases before with
        | nil =>
          obtain ⟨rfl, rfl⟩ := List.cons.inj hsplit
          exact congrArg Except.error (Except.error.inj (hx.symm.trans hy))
        | cons first before =>
          obtain ⟨rfl, rfl⟩ := List.cons.inj hsplit
          obtain ⟨z, hz⟩ := hgood x List.mem_cons_self
          exact nomatch hx.symm.trans hz
    | ok z =>
      constructor
      · intro h
        have hrest : xs.mapM f = .error e := by
          cases hxs : xs.mapM f with
          | error e' =>
            rw [hxs] at h
            exact congrArg Except.error (Except.error.inj h)
          | ok more =>
            rw [hxs] at h
            exact nomatch h
        obtain ⟨before, y, behind, rfl, hgood, hy⟩ := ih.mp hrest
        exact ⟨x :: before, y, behind, rfl, List.forall_mem_cons.mpr ⟨⟨z, hx⟩, hgood⟩, hy⟩
      · rintro ⟨before, y, behind, hsplit, hgood, hy⟩
        cases before with
        | nil =>
          obtain ⟨rfl, rfl⟩ := List.cons.inj hsplit
          exact nomatch hx.symm.trans hy
        | cons first before =>
          obtain ⟨rfl, rfl⟩ := List.cons.inj hsplit
          have hrest := ih.mpr ⟨before, y, behind, rfl, (List.forall_mem_cons.mp hgood).2, hy⟩
          rw [hrest]
          rfl

namespace QueryResponse

/-- What a body reads as, before its lines are taken from it. -/
def Reads (body : String) (response : QueryResponse) : Prop :=
  ∃ document, Json.parse? body.toList = some document ∧ ofJson? document = some response

theorem Reads.parseBody {body : String} {response : QueryResponse} (h : Reads body response) :
    parseBody body = response.lines := by
  obtain ⟨document, hdocument, hresponse⟩ := h
  rw [QueryResponse.parseBody, hdocument]
  dsimp only
  rw [hresponse]

/-- The entry of a line: its id in decimal, its text, and anything behind them. -/
def IsLine (entry : List Json) (line : LogLine) : Prop :=
  ∃ time more, entry = .text time :: .text line.text :: more ∧ Text.IsDecimal time line.id.nanos

/-- What is said of an entry that is no line. -/
inductive Complaint : List Json → String → Prop where
  | time {time text : String} {more : List Json} (h : ∀ n, ¬ Text.IsDecimal time n) :
    Complaint (.text time :: .text text :: more) ("invalid timestamp '" ++ time ++ "'")
  | form {entry : List Json} (h : ∀ time text more, entry ≠ .text time :: .text text :: more) :
    Complaint entry ("expected [timestamp, line], got " ++ (Json.array entry).toCanonical)

theorem line_eq_ok_iff {entry : List Json} {l : LogLine} : line entry = .ok l ↔ IsLine entry l := by
  constructor
  · intro h
    unfold line at h
    split at h
    · next time text more =>
      split at h
      · next nanos hnanos =>
        obtain rfl := Except.ok.inj h
        exact ⟨time, more, rfl, Text.word?_eq_some_iff.mp hnanos⟩
      · exact nomatch h
    · exact nomatch h
  · rintro ⟨time, more, rfl, htime⟩
    simp only [line, Json.text, Text.word?_eq_some_iff.mpr htime]

theorem line_eq_error_iff {entry : List Json} {e : RetrievalError} :
    line entry = .error e ↔ ∃ reason, e = .malformed reason ∧ Complaint entry reason := by
  constructor
  · intro h
    unfold line at h
    split at h
    · next time text more =>
      split at h
      · exact nomatch h
      · next hnone =>
        refine ⟨_, (Except.error.inj h).symm, .time fun n htime => ?_⟩
        exact nomatch hnone.symm.trans (Text.word?_eq_some_iff.mpr htime)
    · next hform => exact ⟨_, (Except.error.inj h).symm, .form fun time text more => hform time text more⟩
  · rintro ⟨reason, rfl, hcomplaint⟩
    cases hcomplaint with
    | @time time text more htime =>
      have hnone : Text.word? time = none :=
        Option.eq_none_iff_forall_ne_some.mpr fun n hn => htime n (Text.word?_eq_some_iff.mp hn)
      simp only [line, Json.text, hnone]
    | form hform =>
      unfold line
      split
      · exact absurd rfl (hform _ _ _)
      · rfl

/-- Nothing says that the query failed. -/
def IsSuccess (response : QueryResponse) : Prop := ∀ status ∈ response.status, status = "success"

/-- Nothing says that the data are anything but streams. -/
def HasStreams (data : QueryData) : Prop := ∀ resultType ∈ data.resultType, resultType = "streams"

/-- The lines that an answer holds, in the order of the document. -/
def Gives (response : QueryResponse) (lines : List LogLine) : Prop :=
  response.IsSuccess ∧ (response.data = none ∧ lines = [] ∨
    ∃ data, response.data = some data ∧ HasStreams data ∧
      List.Forall₂ IsLine data.streams.flatten lines)

/-- What is said of an answer that holds no lines: a bad status comes first, then a bad type of the data,
then the first entry that is no line. -/
inductive Refuses (response : QueryResponse) : String → Prop where
  | status {status : String} (h : response.status = some status) (hne : status ≠ "success") :
    Refuses response ("query status '" ++ status ++ "'")
  | type {data : QueryData} {resultType : String} (hstatus : response.IsSuccess)
    (hdata : response.data = some data) (h : data.resultType = some resultType)
    (hne : resultType ≠ "streams") : Refuses response ("expected streams, got '" ++ resultType ++ "'")
  | entry {data : QueryData} {before behind : List (List Json)} {entry : List Json} {reason : String}
    (hstatus : response.IsSuccess) (hdata : response.data = some data) (htype : HasStreams data)
    (hentries : data.streams.flatten = before ++ entry :: behind)
    (hgood : ∀ earlier ∈ before, ∃ line, IsLine earlier line) (h : Complaint entry reason) :
    Refuses response reason

theorem eq_or_exists_ne (text : Option String) (expected : String) :
    (∀ s ∈ text, s = expected) ∨ ∃ s, text = some s ∧ s ≠ expected := by
  cases text with
  | none => exact .inl nofun
  | some s =>
    by_cases hs : s = expected
    · exact .inl fun t ht => (Option.some.inj ht).symm.trans hs
    · exact .inr ⟨s, rfl, hs⟩

section Checks

variable {response : QueryResponse} {data : QueryData}

theorem lines_of_status {status : String} (h : response.status = some status) (hne : status ≠ "success") :
    response.lines = .error (.malformed ("query status '" ++ status ++ "'")) := by
  simp only [lines, h, if_pos hne]
  rfl

/-- The same comes of a successful answer as of one that names no status. -/
theorem lines_of_success (h : response.IsSuccess) : response.lines = lines ⟨none, response.data⟩ := by
  obtain ⟨status, data⟩ := response
  cases status with
  | none => rfl
  | some status =>
    obtain rfl := h status rfl
    rfl

theorem lines_of_no_data (h : response.IsSuccess) (hdata : response.data = none) :
    response.lines = .ok [] := by
  rw [lines_of_success h, hdata]
  rfl

theorem lines_of_type (h : response.IsSuccess) (hdata : response.data = some data) {resultType : String}
    (htype : data.resultType = some resultType) (hne : resultType ≠ "streams") :
    response.lines = .error (.malformed ("expected streams, got '" ++ resultType ++ "'")) := by
  rw [lines_of_success h, hdata]
  simp only [lines, htype, if_pos hne]
  rfl

theorem lines_of_streams (h : response.IsSuccess) (hdata : response.data = some data)
    (hstreams : HasStreams data) : response.lines = data.streams.flatten.mapM line := by
  rw [lines_of_success h, hdata]
  obtain ⟨resultType, streams⟩ := data
  cases resultType with
  | none => rfl
  | some resultType =>
    obtain rfl := hstreams resultType rfl
    rfl

/-- An answer with data gives lines if neither its status nor the type of its data speaks against it
and every entry is a line. -/
theorem lines_eq_ok_iff (hdata : response.data = some data) {lines : List LogLine} :
    response.lines = .ok lines ↔ response.IsSuccess ∧ HasStreams data ∧
      data.streams.flatten.mapM line = .ok lines := by
  rcases eq_or_exists_ne response.status "success" with hstatus | ⟨status, hstatus, hne⟩
  · rcases eq_or_exists_ne data.resultType "streams" with htype | ⟨resultType, htype, hne⟩
    · rw [lines_of_streams hstatus hdata htype]
      exact ⟨fun h => ⟨hstatus, htype, h⟩, fun h => h.2.2⟩
    · rw [lines_of_type hstatus hdata htype hne]
      exact iff_of_false nofun fun h => hne (h.2.1 resultType htype)
  · rw [lines_of_status hstatus hne]
    exact iff_of_false nofun fun h => hne (h.1 status hstatus)

theorem lines_eq_ok_iff_gives {lines : List LogLine} :
    response.lines = .ok lines ↔ response.Gives lines := by
  have hline : (fun entry l => line entry = .ok l) = IsLine := by
    funext entry l
    exact propext line_eq_ok_iff
  rw [Gives]
  cases hdata : response.data with
  | some data =>
    rw [lines_eq_ok_iff hdata, mapM_eq_ok_iff, hline]
    simp
  | none =>
    rcases eq_or_exists_ne response.status "success" with hstatus | ⟨status, hstatus, hne⟩
    · have hsuccess : response.IsSuccess := hstatus
      rw [lines_of_no_data hsuccess hdata]
      simp [hsuccess, eq_comm]
    · rw [lines_of_status hstatus hne]
      exact iff_of_false nofun fun h => hne (h.1 status hstatus)

theorem lines_eq_error_iff {e : RetrievalError} :
    response.lines = .error e ↔ ∃ reason, e = .malformed reason ∧ response.Refuses reason := by
  constructor
  · intro h
    rcases eq_or_exists_ne response.status "success" with hstatus | ⟨status, hstatus, hne⟩
    · cases hdata : response.data with
      | none => exact nomatch (lines_of_no_data hstatus hdata).symm.trans h
      | some data =>
        rcases eq_or_exists_ne data.resultType "streams" with htype | ⟨resultType, htype, hne⟩
        · rw [lines_of_streams hstatus hdata htype] at h
          obtain ⟨before, entry, behind, hentries, hgood, hentry⟩ := mapM_eq_error_iff.mp h
          obtain ⟨reason, rfl, hcomplaint⟩ := line_eq_error_iff.mp hentry
          refine ⟨reason, rfl, .entry hstatus hdata htype hentries ?_ hcomplaint⟩
          intro earlier hmem
          obtain ⟨l, hl⟩ := hgood earlier hmem
          exact ⟨l, line_eq_ok_iff.mp hl⟩
        · obtain rfl := Except.error.inj ((lines_of_type hstatus hdata htype hne).symm.trans h)
          exact ⟨_, rfl, .type hstatus hdata htype hne⟩
    · obtain rfl := Except.error.inj ((lines_of_status hstatus hne).symm.trans h)
      exact ⟨_, rfl, .status hstatus hne⟩
  · rintro ⟨reason, rfl, hrefuses⟩
    cases hrefuses with
    | status hstatus hne => exact lines_of_status hstatus hne
    | type hstatus hdata htype hne => exact lines_of_type hstatus hdata htype hne
    | @entry data before behind entry _ hstatus hdata htype hentries hgood hcomplaint =>
      rw [lines_of_streams hstatus hdata htype, mapM_eq_error_iff]
      refine ⟨before, entry, behind, hentries, ?_, line_eq_error_iff.mpr ⟨reason, rfl, hcomplaint⟩⟩
      intro earlier hmem
      obtain ⟨l, hl⟩ := hgood earlier hmem
      exact ⟨l, line_eq_ok_iff.mpr hl⟩

end Checks

/-! ### Answers that are written -/

/-- The lines of one stream, and its labels, the names of which need no escapes. -/
structure LabelledLines where
  labels : List (String × String)
  bare : ∀ label ∈ labels, Json.IsBare label.1
  lines : List LogLine

def entryOf (l : LogLine) : List Json := [.text l.id.text, .text l.text]

namespace LabelledLines

def labelsJson (stream : LabelledLines) : Json :=
  .fields (stream.labels.map fun label => (label.1, .text label.2))

def valuesJson (stream : LabelledLines) : Json :=
  .array (stream.lines.map fun l => .array (entryOf l))

def toJson (stream : LabelledLines) : Json :=
  .fields [("stream", stream.labelsJson), ("values", stream.valuesJson)]

end LabelledLines

def dataOf (streams : List LabelledLines) : Json :=
  .fields [("resultType", .text "streams"), ("result", .array (streams.map LabelledLines.toJson))]

/-- The document of a successful answer with the lines of some streams. -/
def documentOf (streams : List LabelledLines) : Json :=
  .fields [("status", .text "success"), ("data", dataOf streams)]

theorem isLine_entryOf (l : LogLine) : IsLine (entryOf l) l :=
  ⟨l.id.text, [], rfl, Text.isDecimal_toString l.id.nanos⟩

theorem isStream_toJson (stream : LabelledLines) :
    IsStream stream.toJson (stream.lines.map entryOf) := by
  refine ⟨some stream.valuesJson, .object ?_ (.cons ?_ .nil), .given ?_⟩
  · simp
  · simp [Json.named]
  · rw [List.forall₂_map_left_iff, List.forall₂_map_right_iff, List.forall₂_same]
    intro l _
    exact ⟨rfl, rfl⟩

theorem isAnswer_documentOf (streams : List LabelledLines) : IsAnswer (documentOf streams)
    ⟨some "success", some ⟨some "streams", streams.map fun stream => stream.lines.map entryOf⟩⟩ := by
  have hdata : IsData (dataOf streams)
      ⟨some "streams", streams.map fun stream => stream.lines.map entryOf⟩ := by
    refine ⟨some (.text "streams"), some (.array (streams.map LabelledLines.toJson)),
      .object ?_ (.cons ?_ (.cons ?_ .nil)), .given rfl, .given ?_⟩
    · simp
    · simp [Json.named]
    · simp [Json.named]
    · rw [List.forall₂_map_left_iff, List.forall₂_map_right_iff, List.forall₂_same]
      exact fun stream _ => isStream_toJson stream
  refine ⟨some (.text "success"), some (dataOf streams), .object ?_ (.cons ?_ (.cons ?_ .nil)),
    .given rfl, .given hdata⟩
  · simp
  · simp [Json.named]
  · simp [Json.named]

theorem gives_documentOf (streams : List LabelledLines) :
    Gives ⟨some "success", some ⟨some "streams", streams.map fun stream => stream.lines.map entryOf⟩⟩
      (streams.flatMap LabelledLines.lines) := by
  refine ⟨fun _ h => (Option.some.inj h).symm, .inr ⟨_, rfl, fun _ h => (Option.some.inj h).symm, ?_⟩⟩
  have hentries : (streams.map fun stream => stream.lines.map entryOf).flatten =
      (streams.flatMap LabelledLines.lines).map entryOf := by
    rw [List.map_flatMap, List.flatMap_def]
  rw [hentries, List.forall₂_map_left_iff, List.forall₂_same]
  exact fun l _ => isLine_entryOf l

theorem written_two {first second : String} {value other : Json}
    (hnames : ∀ name ∈ [first, second], Json.IsBare name) (hvalue : Json.Written value)
    (hother : Json.Written other) : Json.Written (.fields [(first, value), (second, other)]) :=
  written_record hnames (List.forall_mem_cons.mpr ⟨hvalue, List.forall_mem_singleton.mpr hother⟩)

theorem written_toJson (stream : LabelledLines) : Json.Written stream.toJson := by
  have hlabels : Json.Written stream.labelsJson := by
    refine .fields _ (fun field hfield => ?_) fun field hfield => ?_
    · obtain ⟨label, hlabel, rfl⟩ := List.mem_map.mp hfield
      exact stream.bare label hlabel
    · obtain ⟨label, -, rfl⟩ := List.mem_map.mp hfield
      exact .text label.2
  have hvalues : Json.Written stream.valuesJson := by
    refine .array _ fun entry hentry => ?_
    obtain ⟨l, -, rfl⟩ := List.mem_map.mp hentry
    refine .array _ fun item hitem => ?_
    obtain ⟨s, rfl⟩ : ∃ s, item = .text s := by
      rcases List.mem_cons.mp hitem with rfl | hitem
      · exact ⟨_, rfl⟩
      · exact ⟨_, List.mem_singleton.mp hitem⟩
    exact .text s
  exact written_two (by decide) hlabels hvalues

theorem written_documentOf (streams : List LabelledLines) : Json.Written (documentOf streams) := by
  have hstreams : Json.Written (.array (streams.map LabelledLines.toJson)) := by
    refine .array _ fun item hitem => ?_
    obtain ⟨stream, -, rfl⟩ := List.mem_map.mp hitem
    exact written_toJson stream
  exact written_two (by decide) (.text _) (written_two (by decide) (.text _) hstreams)

theorem parseBody_of_reads {body : String} {document : Json}
    (h : Json.parse? body.toList = some document) {response : QueryResponse}
    (hanswer : IsAnswer document response) : parseBody body = response.lines :=
  Reads.parseBody ⟨document, h, ofJson?_eq_some_iff.mpr hanswer⟩

theorem parseBody_documentOf {streams : List LabelledLines} {body : String}
    (h : Json.parse? body.toList = some (documentOf streams)) :
    parseBody body = .ok (streams.flatMap LabelledLines.lines) := by
  rw [parseBody_of_reads h (isAnswer_documentOf streams)]
  exact lines_eq_ok_iff_gives.mpr (gives_documentOf streams)

/-- Of a body that is not accepted it is always said that it is malformed. -/
theorem malformed_of_parseBody {body : String} {e : RetrievalError} (h : parseBody body = .error e) :
    ∃ reason, e = .malformed reason := by
  unfold parseBody at h
  split at h
  · exact ⟨_, (Except.error.inj h).symm⟩
  · split at h
    · exact ⟨_, (Except.error.inj h).symm⟩
    · obtain ⟨reason, rfl, -⟩ := lines_eq_error_iff.mp h
      exact ⟨reason, rfl⟩

/-- A body is accepted if it is a document of the shape of an answer that says nothing but that the query
was successful and its data are streams, all entries of which are lines; these are given in order. Of any
other body it is said that it is malformed: if it has the shape of an answer, the status is named if it is
bad, then the type of the data if it is bad, then the first entry that is no line. An answer that is written
with any streams of lines, in one line or in many, is read as their lines, one stream after another. -/
theorem parseBody_of_answer :
    (∀ (body : String) (lines : List LogLine), parseBody body = .ok lines ↔
      ∃ document response, Json.parse? body.toList = some document ∧ IsAnswer document response ∧
        response.Gives lines) ∧
    (∀ body e, parseBody body = .error e → ∃ reason, e = .malformed reason) ∧
    (∀ body document response, Json.parse? body.toList = some document → IsAnswer document response →
      ∀ reason, parseBody body = .error (.malformed reason) ↔ response.Refuses reason) ∧
    ∀ streams : List LabelledLines, ∀ write ∈ [Json.toCompact, Json.toPretty],
      parseBody (write (documentOf streams)) = .ok (streams.flatMap LabelledLines.lines) := by
  refine ⟨fun body lines => ⟨fun h => ?_, ?_⟩, fun body e h => ?_, ?_, fun streams write hwrite => ?_⟩
  · unfold parseBody at h
    split at h
    · exact nomatch h
    · next document hdocument =>
      split at h
      · exact nomatch h
      · next response hresponse =>
        exact ⟨document, response, hdocument, ofJson?_eq_some_iff.mp hresponse,
          lines_eq_ok_iff_gives.mp h⟩
  · rintro ⟨document, response, hdocument, hanswer, hgives⟩
    rw [parseBody_of_reads hdocument hanswer]
    exact lines_eq_ok_iff_gives.mpr hgives
  · exact malformed_of_parseBody h
  · intro body document response hdocument hanswer reason
    rw [parseBody_of_reads hdocument hanswer, lines_eq_error_iff]
    constructor
    · rintro ⟨other, hsame, hrefuses⟩
      obtain rfl := RetrievalError.malformed.inj hsame
      exact hrefuses
    · intro hrefuses
      exact ⟨reason, rfl, hrefuses⟩
  · have hwritten := written_documentOf streams
    have hdocument : Json.parse? (write (documentOf streams)).toList = some (documentOf streams) := by
      rcases List.mem_cons.mp hwrite with rfl | hwrite
      · rw [Json.toCompact, String.toList_ofList, hwritten.parse?_compact]
      · rw [List.mem_singleton.mp hwrite, Json.toPretty, String.toList_ofList, hwritten.parse?_pretty]
    exact parseBody_documentOf hdocument

end QueryResponse

end Loki

end RunLog
