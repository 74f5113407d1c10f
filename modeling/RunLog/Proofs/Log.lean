import RunLog.Source.Stored

namespace RunLog

theorem LineId.le_iff {a b : LineId} : a ≤ b ↔ a.nanos.toNat ≤ b.nanos.toNat :=
  UInt64.le_iff_toNat_le

theorem LineId.lt_iff {a b : LineId} : a < b ↔ a.nanos.toNat < b.nanos.toNat :=
  UInt64.lt_iff_toNat_lt

theorem LineId.toNat_inj {a b : LineId} : a.nanos.toNat = b.nanos.toNat ↔ a = b := by
  constructor
  · intro h
    exact congrArg LineId.mk (UInt64.toNat_inj.mp h)
  · rintro rfl
    rfl

theorem LineId.le_refl (id : LineId) : id ≤ id := le_iff.mpr (Nat.le_refl _)

theorem LineId.le_trans {a b c : LineId} (hab : a ≤ b) (hbc : b ≤ c) : a ≤ c :=
  le_iff.mpr (Nat.le_trans (le_iff.mp hab) (le_iff.mp hbc))

theorem LineId.le_antisymm {a b : LineId} (hab : a ≤ b) (hba : b ≤ a) : a = b :=
  toNat_inj.mp (Nat.le_antisymm (le_iff.mp hab) (le_iff.mp hba))

theorem LineId.lt_or_eq_of_le {a b : LineId} (h : a ≤ b) : a < b ∨ a = b := by
  rcases Nat.lt_or_eq_of_le (le_iff.mp h) with hlt | heq
  · exact .inl (lt_iff.mpr hlt)
  · exact .inr (toNat_inj.mp heq)

theorem LineId.not_lt {a b : LineId} : ¬ a < b ↔ b ≤ a := by
  rw [lt_iff, le_iff, Nat.not_lt]

theorem LineId.not_le {a b : LineId} : ¬ a ≤ b ↔ b < a := by
  rw [lt_iff, le_iff, Nat.not_le]

theorem LineId.le_total (a b : LineId) : a ≤ b ∨ b ≤ a := by
  rw [le_iff, le_iff]
  exact Nat.le_total _ _

theorem LineId.le_of_lt {a b : LineId} (h : a < b) : a ≤ b := le_iff.mpr (Nat.le_of_lt (lt_iff.mp h))

theorem LineId.lt_of_lt_of_le {a b c : LineId} (hab : a < b) (hbc : b ≤ c) : a < c :=
  lt_iff.mpr (Nat.lt_of_lt_of_le (lt_iff.mp hab) (le_iff.mp hbc))

theorem LineId.ne_of_lt {a b : LineId} (h : a < b) : a ≠ b := by
  rintro rfl
  exact Nat.lt_irrefl _ (lt_iff.mp h)

theorem LineId.toNat_max (a b : LineId) :
    (max a b).nanos.toNat = max a.nanos.toNat b.nanos.toNat := by
  change (if a ≤ b then b else a).nanos.toNat = _
  split
  · next h =>
    rw [le_iff] at h
    omega
  · next h =>
    rw [le_iff] at h
    omega

instance : Std.Associative (max : LineId → LineId → LineId) where
  assoc a b c := by
    apply LineId.toNat_inj.mp
    rw [LineId.toNat_max, LineId.toNat_max, LineId.toNat_max, LineId.toNat_max, Nat.max_assoc]

theorem LineId.lt_greatest_iff {a : LineId} :
    a < greatest ↔ a.nanos.toNat < 18446744073709551615 :=
  LineId.lt_iff

/-- Any id but the highest has its successor right behind it. -/
theorem LineId.toNat_next (id : LineId) :
    id.next.nanos.toNat = min (id.nanos.toNat + 1) 18446744073709551615 := by
  have hlt := id.nanos.toNat_lt
  unfold next
  split
  · next h =>
    rw [h]
    rfl
  · next h =>
    -- Counting on does not wrap around, since the word is not the highest.
    have hne : id.nanos.toNat ≠ 18446744073709551615 := fun heq => h (UInt64.toNat_inj.mp heq)
    have hsucc : (id.nanos + 1).toNat = id.nanos.toNat + 1 := by
      rw [UInt64.toNat_add]
      change (id.nanos.toNat + 1) % 2 ^ 64 = _
      omega
    rw [hsucc]
    omega

theorem LineId.le_next (id : LineId) : id ≤ id.next := by
  have hlt := id.nanos.toNat_lt
  rw [le_iff, toNat_next]
  omega

theorem LineId.next_le_next {a b : LineId} (h : a ≤ b) : a.next ≤ b.next := by
  rw [le_iff] at h ⊢
  rw [toNat_next, toNat_next]
  omega

/-- Below the highest id, the ids from the successor of `a` on are those above `a`. -/
theorem LineId.next_le_iff {a b : LineId} (hb : b < greatest) : a.next ≤ b ↔ a < b := by
  rw [lt_greatest_iff] at hb
  rw [le_iff, lt_iff, toNat_next]
  omega

/-- An id whose successor is not above another id lies below it, unless both are the highest. -/
theorem LineId.lt_or_eq_greatest_of_next_le {a b : LineId} (h : a.next ≤ b) :
    a < b ∨ a = greatest ∧ b = greatest := by
  have ha := a.nanos.toNat_lt
  have hb := b.nanos.toNat_lt
  have htop : greatest.nanos.toNat = 18446744073709551615 := rfl
  rw [le_iff, toNat_next] at h
  by_cases hmax : a.nanos.toNat = 18446744073709551615
  · right
    exact ⟨toNat_inj.mp (by omega), toNat_inj.mp (by omega)⟩
  · left
    rw [lt_iff]
    omega

/-- The lines are in the order of their ids, some of which may be equal. -/
def Ordered (lines : List LogLine) : Prop := lines.Pairwise fun a b => a.id ≤ b.id

/-- The ids of the lines strictly increase. -/
def Ascending (lines : List LogLine) : Prop := lines.Pairwise fun a b => a.id < b.id

/-- What a backend can hold: ascending ids, none of them the highest. -/
structure IsLog (lines : List LogLine) : Prop where
  ascending : Ascending lines
  below : ∀ line ∈ lines, line.id < LineId.greatest

/-- What a backend can hold where lines may share an id: ids in order, none of them the highest. -/
structure IsTiedLog (lines : List LogLine) : Prop where
  ordered : Ordered lines
  below : ∀ line ∈ lines, line.id < LineId.greatest

/-- The lines from an id on. -/
def fromId (start : LineId) (lines : List LogLine) : List LogLine :=
  lines.filter fun line => start ≤ line.id

/-- The lines behind an id. -/
def beyond (id : LineId) (lines : List LogLine) : List LogLine :=
  lines.filter fun line => id < line.id

/-- The id of the last of some lines. -/
def lastId (lines : List LogLine) : Option LineId := lines.getLast?.map LogLine.id

/-- What is asked for behind a page: those of the other lines that lie behind its last id. -/
def behindPage (page others : List LogLine) : List LogLine :=
  match lastId page with
  | some id => beyond id others
  | none => others

/-- The bytes of some lines, each with its newline. -/
def render (lines : List LogLine) : List UInt8 := lines.flatMap LogLine.bytes

@[simp] theorem render_nil : render [] = [] := rfl

@[simp] theorem render_cons (line : LogLine) (lines : List LogLine) :
    render (line :: lines) = line.bytes ++ render lines := rfl

@[simp] theorem render_append (xs ys : List LogLine) :
    render (xs ++ ys) = render xs ++ render ys := List.flatMap_append

theorem LogLine.bytes_ne_nil (line : LogLine) : line.bytes ≠ [] := by
  simp [LogLine.bytes]

@[simp] theorem lastId_nil : lastId [] = none := rfl

@[simp] theorem lastId_concat (lines : List LogLine) (line : LogLine) :
    lastId (lines ++ [line]) = some line.id := by
  simp [lastId]

@[simp] theorem beyond_append (id : LineId) (xs ys : List LogLine) :
    beyond id (xs ++ ys) = beyond id xs ++ beyond id ys := List.filter_append ..

theorem Ordered.sublist {xs ys : List LogLine} (h : Ordered ys) (hs : xs.Sublist ys) :
    Ordered xs := List.Pairwise.sublist hs h

theorem Ascending.ordered {lines : List LogLine} (h : Ascending lines) : Ordered lines :=
  h.imp fun hab => LineId.le_of_lt hab

theorem Ascending.sublist {xs ys : List LogLine} (h : Ascending ys) (hs : xs.Sublist ys) :
    Ascending xs := List.Pairwise.sublist hs h

theorem IsLog.sublist {xs ys : List LogLine} (h : IsLog ys) (hs : xs.Sublist ys) : IsLog xs :=
  ⟨h.ascending.sublist hs, fun line hl => h.below line (hs.subset hl)⟩

theorem IsLog.isTiedLog {lines : List LogLine} (h : IsLog lines) : IsTiedLog lines :=
  ⟨h.ascending.ordered, h.below⟩

theorem IsLog.fromId {lines : List LogLine} (h : IsLog lines) (start : LineId) :
    IsLog (fromId start lines) := h.sublist List.filter_sublist

theorem extract_append_next {text data : List UInt8} {a b : Nat} (hab : a ≤ b)
    (h : data <+: text.drop b) : text.extract a b ++ data = text.extract a (b + data.length) := by
  obtain ⟨more, hmore⟩ := h
  have hlen : b + data.length - a = (b - a) + data.length := by omega
  have hnext : ((text.drop a).drop (b - a)).take data.length = data := by
    rw [List.drop_drop, Nat.add_sub_of_le hab, ← hmore, List.take_left]
  calc (text.drop a).take (b - a) ++ data
    _ = (text.drop a).take (b - a) ++ ((text.drop a).drop (b - a)).take data.length := by rw [hnext]
    _ = (text.drop a).take (b + data.length - a) := by rw [hlen, List.take_add]

theorem extract_append {text : List UInt8} {a b : Nat} (hab : a ≤ b) (hb : b ≤ text.length)
    (more : List UInt8) : (text ++ more).extract a b = text.extract a b := by
  change ((text ++ more).drop a).take (b - a) = (text.drop a).take (b - a)
  rw [List.drop_append_of_le_length (by omega),
    List.take_append_of_le_length (by rw [List.length_drop]; omega)]

/-- Up to the last line of ordered lines no id exceeds the last one. -/
theorem Ordered.beyond_lastId {lines : List LogLine} (h : Ordered lines) {id : LineId}
    (hid : lastId lines = some id) : beyond id lines = [] := by
  obtain ⟨last, hlast, rfl⟩ := Option.map_eq_some_iff.mp hid
  obtain ⟨front, rfl⟩ := List.getLast?_eq_some_iff.mp hlast
  apply List.filter_eq_nil_iff.mpr
  intro line hl
  have hle : line.id ≤ last.id := by
    rcases List.mem_append.mp hl with hl | hl
    · exact (List.pairwise_append.mp h).2.2 line hl last List.mem_cons_self
    · rw [List.mem_singleton.mp hl]
      exact LineId.le_refl last.id
  rw [decide_eq_true_eq]
  exact LineId.not_lt.mpr hle

theorem Ordered.beyond_eq_self {line : LogLine} {more : List LogLine} (h : Ordered (line :: more))
    {id : LineId} (hid : id < line.id) : beyond id (line :: more) = line :: more := by
  apply List.filter_eq_self.mpr
  intro other hother
  have hle : line.id ≤ other.id := by
    rcases List.mem_cons.mp hother with rfl | hother
    · exact LineId.le_refl _
    · exact (List.pairwise_cons.mp h).1 other hother
  exact decide_eq_true (LineId.lt_of_lt_of_le hid hle)

/-- Dropping ordered lines from the front up to an id keeps those behind it. -/
theorem Ordered.dropWhile_eq_beyond {lines : List LogLine} (h : Ordered lines) (id : LineId) :
    lines.dropWhile (fun line => line.id ≤ id) = beyond id lines := by
  induction lines with
  | nil => rfl
  | cons line rest ih =>
    by_cases hle : line.id ≤ id
    · -- This line is dropped, and the filter leaves it out as well.
      have hnot : ¬ id < line.id := LineId.not_lt.mpr hle
      rw [List.dropWhile_cons_of_pos (by simpa using hle), ih (List.pairwise_cons.mp h).2]
      simp [beyond, hnot]
    · -- The first line that stays keeps all that follow it.
      have hlt : id < line.id := LineId.not_le.mp hle
      rw [List.dropWhile_cons_of_neg (by simpa using hle), h.beyond_eq_self hlt]

/-- Behind the last id of a first part of ascending lines lies the other part. -/
theorem Ascending.beyond_lastId {xs ys : List LogLine} (h : Ascending (xs ++ ys)) {id : LineId}
    (hid : lastId xs = some id) : beyond id (xs ++ ys) = ys := by
  obtain ⟨hxs, -, hxy⟩ := List.pairwise_append.mp h
  have hxs : Ascending xs := hxs
  obtain ⟨last, hlast, rfl⟩ := Option.map_eq_some_iff.mp hid
  have hmem : last ∈ xs := List.mem_of_getLast? hlast
  have hall : beyond last.id ys = ys := by
    apply List.filter_eq_self.mpr
    intro line hl
    simpa using hxy last hmem line hl
  rw [beyond_append, hxs.ordered.beyond_lastId hid, hall, List.nil_append]

/-- Behind a first part of ordered lines lie those of the others that do not share its last id. -/
theorem Ordered.beyond_eq_behindPage {page others : List LogLine} (h : Ordered (page ++ others))
    {id : LineId} (hid : lastId page = some id) :
    beyond id (page ++ others) = behindPage page others := by
  have hpage : Ordered page := h.sublist (List.sublist_append_left page others)
  rw [beyond_append, hpage.beyond_lastId hid, List.nil_append, behindPage, hid]

theorem behindPage_sublist (page others : List LogLine) :
    (behindPage page others).Sublist others := by
  unfold behindPage
  split
  · exact List.filter_sublist
  · exact List.Sublist.refl others

theorem Ascending.behindPage_eq {page others : List LogLine} (h : Ascending (page ++ others)) :
    behindPage page others = others := by
  cases hid : lastId page with
  | none => rw [behindPage, hid]
  | some id => rw [← h.ordered.beyond_eq_behindPage hid, h.beyond_lastId hid]

/-- Behind a first part of ascending lines lies the other part, also if the first is empty. -/
theorem Ascending.behindPage_append {xs ys : List LogLine} (h : Ascending (xs ++ ys)) :
    behindPage xs (xs ++ ys) = ys := by
  cases hid : lastId xs with
  | none =>
    obtain rfl : xs = [] := by simpa [lastId] using hid
    rfl
  | some id =>
    rw [behindPage, hid]
    exact h.beyond_lastId hid

/-- Of ordered lines the last has the highest id. -/
theorem Ordered.max?_ids {lines : List LogLine} (h : Ordered lines) :
    (lines.map LogLine.id).max? = lastId lines := by
  induction lines with
  | nil => rfl
  | cons line more ih =>
    obtain ⟨hfirst, hmore⟩ := List.pairwise_cons.mp h
    rw [List.map_cons, List.max?_cons, ih hmore]
    cases hlast : more.getLast? with
    | none =>
      obtain rfl := List.getLast?_eq_none_iff.mp hlast
      rfl
    | some last =>
      have hle : line.id ≤ last.id := hfirst last (List.mem_of_getLast? hlast)
      have hmax : max line.id last.id = last.id := if_pos hle
      rw [lastId, lastId, List.getLast?_cons, hlast, Option.map_some, Option.map_some,
        Option.elim_some, hmax]
      rfl

/-- A log of three short lines. -/
def threeLines : List LogLine := [⟨⟨10⟩, "one"⟩, ⟨⟨20⟩, "two"⟩, ⟨⟨30⟩, "three"⟩]

theorem isLog_threeLines : IsLog threeLines where
  ascending := by
    unfold Ascending threeLines
    decide
  below := by
    unfold threeLines
    decide

/-- A log of three short lines, two of which share their id. -/
def tiedLines : List LogLine := [⟨⟨10⟩, "a"⟩, ⟨⟨10⟩, "b"⟩, ⟨⟨20⟩, "c"⟩]

theorem isTiedLog_tiedLines : IsTiedLog tiedLines where
  ordered := by
    unfold Ordered tiedLines
    decide
  below := by
    unfold tiedLines
    decide

end RunLog
