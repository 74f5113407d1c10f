import RunLog.Proofs.Reading

/-! Where in a log a stream of bytes stands. A `Place` is an offset with its meaning in lines, which is
what a resume point records. Main statements: a read moves a stream along the log by the bytes that it
delivers, a read that fails leaves it where it was, and a jump to a recorded point lands on the place
that the point names. -/

namespace RunLog

/-- A place between two bytes of a log: the lines before it, the lines from it on, and how many bytes
of the first of these come before it. -/
structure Place (log : List LogLine) where
  passed : List LogLine
  ahead : List LogLine
  into : Nat
  split : log = passed ++ ahead
  within : (ahead = [] ∧ into = 0) ∨ ∃ line more, ahead = line :: more ∧ into < line.bytes.length

/-- A part of a list is followed by what is a part of the list from there on. -/
theorem prefix_drop_append {α : Type} {all first others : List α} {k : Nat}
    (hfirst : first <+: all.drop k) (hothers : others <+: all.drop (k + first.length)) :
    first ++ others <+: all.drop k := by
  obtain ⟨rest, hrest⟩ := hfirst
  have hbehind : all.drop (k + first.length) = rest := by
    rw [← List.drop_drop, ← hrest, List.drop_left]
  rw [← hrest, List.prefix_append_right_inj, ← hbehind]
  exact hothers

theorem LogLine.length_bytes_pos (line : LogLine) : 0 < line.bytes.length :=
  List.length_pos_iff.mpr line.bytes_ne_nil

namespace Place

variable {log : List LogLine}

/-- The place from which some lines lie ahead. -/
def before (passed ahead : List LogLine) (h : log = passed ++ ahead) : Place log where
  passed := passed
  ahead := ahead
  into := 0
  split := h
  within := by
    cases ahead with
    | nil => exact .inl ⟨rfl, rfl⟩
    | cons line more => exact .inr ⟨line, more, rfl, line.length_bytes_pos⟩

/-- The place within the first of the lines ahead. -/
def inside (passed : List LogLine) (line : LogLine) (more : List LogLine)
    (h : log = passed ++ line :: more) (into : Nat) (hi : into < line.bytes.length) : Place log where
  passed := passed
  ahead := line :: more
  into := into
  split := h
  within := .inr ⟨line, more, rfl, hi⟩

/-- How many bytes come before a place. -/
def offset (p : Place log) : Nat := (render p.passed).length + p.into

/-- What a cursor cache records for a place. -/
def point (p : Place log) : ResumePoint := ⟨lastId p.passed, UInt64.ofNat p.into⟩

theorem into_lt {p : Place log} {line : LogLine} {more : List LogLine}
    (h : p.ahead = line :: more) : p.into < line.bytes.length := by
  rcases p.within with ⟨hnil, -⟩ | ⟨line', more', hcons, hlt⟩
  · exact nomatch h.symm.trans hnil
  · obtain ⟨rfl, -⟩ := List.cons.inj (h.symm.trans hcons)
    exact hlt

theorem drop_into_ne_nil {p : Place log} {line : LogLine} {more : List LogLine}
    (h : p.ahead = line :: more) : line.bytes.drop p.into ≠ [] := by
  have hlt := into_lt h
  rw [Ne, List.drop_eq_nil_iff]
  omega

theorem into_of_ahead_eq_nil {p : Place log} (h : p.ahead = []) : p.into = 0 := by
  rcases p.within with ⟨-, hzero⟩ | ⟨line, more, hcons, -⟩
  · exact hzero
  · exact nomatch h.symm.trans hcons

theorem into_le (p : Place log) : p.into ≤ (render p.ahead).length := by
  rcases p.within with ⟨-, hzero⟩ | ⟨line, more, hcons, hlt⟩
  · rw [hzero]
    exact Nat.zero_le _
  · rw [hcons, render_cons, List.length_append]
    omega

theorem length_render (p : Place log) :
    (render log).length = (render p.passed).length + (render p.ahead).length := by
  rw [← List.length_append, ← render_append, ← p.split]

theorem offset_le (p : Place log) : p.offset ≤ (render log).length := by
  have hle := p.into_le
  rw [p.length_render, offset]
  omega

theorem offset_eq_length_iff (p : Place log) : p.offset = (render log).length ↔ p.ahead = [] := by
  rw [p.length_render, offset]
  rcases p.within with ⟨hnil, hzero⟩ | ⟨line, more, hcons, hlt⟩
  · rw [hnil, hzero]
    exact ⟨fun _ => rfl, fun _ => rfl⟩
  · rw [hcons, render_cons, List.length_append]
    exact ⟨fun h => by omega, nofun⟩

theorem passed_of_offset_eq_zero {p : Place log} (h : p.offset = 0) :
    p.passed = [] ∧ p.into = 0 := by
  rw [offset, Nat.add_eq_zero_iff] at h
  refine ⟨?_, h.2⟩
  cases hp : p.passed with
  | nil => rfl
  | cons line more =>
    have hlen := line.length_bytes_pos
    rw [hp, render_cons, List.length_append] at h
    omega

theorem ahead_of_passed_eq_nil {p : Place log} (h : p.passed = []) : p.ahead = log := by
  have hsplit := p.split
  rw [h, List.nil_append] at hsplit
  exact hsplit.symm

theorem drop_offset (p : Place log) : (render log).drop p.offset = (render p.ahead).drop p.into := by
  have hsplit : render log = render p.passed ++ render p.ahead := by
    rw [← render_append, ← p.split]
  calc (render log).drop p.offset
    _ = ((render p.passed ++ render p.ahead).drop (render p.passed).length).drop p.into := by
      rw [hsplit, List.drop_drop, offset]
    _ = (render p.ahead).drop p.into := by rw [List.drop_left]

theorem offset_lt_of_passed {p q : Place log} {line : LogLine} {more : List LogLine}
    (hpassed : q.passed = p.passed ++ line :: more) (hahead : p.ahead = line :: more ++ q.ahead) :
    p.offset < q.offset := by
  have hlt := into_lt hahead
  rw [offset, offset, hpassed, render_append, render_cons, List.length_append, List.length_append]
  omega

/-- An offset has one place only. -/
theorem eq_of_offset_eq {p q : Place log} (h : p.offset = q.offset) : p = q := by
  have hpassed : p.passed = q.passed := by
    -- If one place were further on by a line, its offset would be greater.
    rcases List.append_eq_append_iff.mp (p.split.symm.trans q.split) with
      ⟨between, hq, hp⟩ | ⟨between, hp, hq⟩
    · cases between with
      | nil => rw [hq, List.append_nil]
      | cons line more => exact absurd h (Nat.ne_of_lt (offset_lt_of_passed hq hp))
    · cases between with
      | nil => rw [hp, List.append_nil]
      | cons line more => exact absurd h (Nat.ne_of_gt (offset_lt_of_passed hp hq))
  have hahead : p.ahead = q.ahead := by
    have hsplit := p.split.symm.trans q.split
    rw [hpassed] at hsplit
    exact List.append_cancel_left hsplit
  have hinto : p.into = q.into := by
    rw [offset, offset, hpassed] at h
    exact Nat.add_left_cancel h
  cases p
  cases q
  cases hpassed
  cases hahead
  cases hinto
  rfl

/-- What a read with room for `n` bytes delivers at a place: bytes of one line. -/
def portion (p : Place log) (n : Nat) : List UInt8 :=
  match p.ahead with
  | [] => []
  | line :: _ => (line.bytes.drop p.into).take n

theorem portion_of_ahead {p : Place log} {line : LogLine} {more : List LogLine}
    (h : p.ahead = line :: more) (n : Nat) : p.portion n = (line.bytes.drop p.into).take n := by
  rw [portion, h]

theorem portion_prefix (p : Place log) (n : Nat) : p.portion n <+: (render log).drop p.offset := by
  cases hahead : p.ahead with
  | nil =>
    rw [portion, hahead]
    exact List.nil_prefix
  | cons line more =>
    have hlt := into_lt hahead
    rw [portion_of_ahead hahead, p.drop_offset, hahead, render_cons,
      List.drop_append_of_le_length (by omega)]
    exact (List.take_prefix n _).trans (List.prefix_append _ _)

theorem portion_eq_nil_iff (p : Place log) {n : Nat} (hn : n ≠ 0) :
    p.portion n = [] ↔ p.ahead = [] := by
  cases hahead : p.ahead with
  | nil =>
    rw [portion, hahead]
    exact iff_of_true rfl rfl
  | cons line more =>
    rw [portion_of_ahead hahead, List.take_eq_nil_iff, or_iff_right hn]
    exact iff_of_false (drop_into_ne_nil hahead) nofun

/-- Where a first part of a log ends before a place, the lines behind that part are those ahead of the
place once the ids that were passed are taken out of them. -/
theorem behindPage_passed (p : Place log) {front rest : List LogLine} (h : log = front ++ rest)
    (hasc : Ascending log) (hle : (render front).length ≤ p.offset) :
    behindPage p.passed rest = p.ahead := by
  obtain ⟨between, hpassed, hrest⟩ : ∃ between, p.passed = front ++ between ∧
      rest = between ++ p.ahead := by
    rcases List.append_eq_append_iff.mp (p.split.symm.trans h) with
      ⟨between, hfront, hahead⟩ | ⟨between, hpassed, hrest⟩
    · cases between with
      | nil =>
        rw [List.append_nil] at hfront
        exact ⟨[], hfront.symm.trans (List.append_nil _).symm, hahead.symm⟩
      | cons line more =>
        -- The first part would end behind a line in which the place lies.
        have hlt := into_lt hahead
        rw [hfront, render_append, render_cons, List.length_append, List.length_append, offset] at hle
        omega
    · exact ⟨between, hpassed, hrest⟩
  cases hid : lastId p.passed with
  | none =>
    have hnil : p.passed = [] := by simpa [lastId] using hid
    rw [hnil] at hpassed
    obtain ⟨-, rfl⟩ := List.append_eq_nil_iff.mp hpassed.symm
    rw [behindPage, hid, hrest, List.nil_append]
  | some id =>
    have hsplit := p.split
    have hord : Ordered p.passed := by
      rw [hsplit] at hasc
      exact hasc.ordered.sublist (List.sublist_append_left _ _)
    have hfront : beyond id front = [] := by
      have hnone := hord.beyond_lastId hid
      rw [hpassed, beyond_append] at hnone
      exact (List.append_eq_nil_iff.mp hnone).1
    calc behindPage p.passed rest
      _ = beyond id front ++ beyond id rest := by rw [behindPage, hid, hfront, List.nil_append]
      _ = beyond id (p.passed ++ p.ahead) := by rw [← beyond_append, ← h, ← hsplit]
      _ = p.ahead := Ascending.beyond_lastId (hsplit ▸ hasc) hid

/-- A place keeps its meaning when lines are appended to the log. -/
def extend (p : Place log) (more : List LogLine) : Place (log ++ more) where
  passed := p.passed
  ahead := p.ahead ++ more
  into := p.into
  split := by rw [← List.append_assoc, ← p.split]
  within := by
    rcases p.within with ⟨hnil, hzero⟩ | ⟨line, others, hcons, hlt⟩
    · rw [hnil, hzero, List.nil_append]
      exact (before [] more (List.nil_append more).symm).within
    · exact .inr ⟨line, others ++ more, by rw [hcons]; rfl, hlt⟩

end Place

/-- A recorded point tells the truth about an offset if a place of the log has both. -/
def Faithful (log : List LogLine) (offset : UInt64) (point : ResumePoint) : Prop :=
  ∃ p : Place log, offset.toNat = p.offset ∧ point = p.point

theorem Faithful.append {log : List LogLine} {offset : UInt64} {point : ResumePoint}
    (h : Faithful log offset point) (more : List LogLine) : Faithful (log ++ more) offset point := by
  obtain ⟨p, hoffset, hpoint⟩ := h
  exact ⟨p.extend more, hoffset, hpoint⟩

/-- An offset has one place, and so one point that is true of it. -/
theorem Faithful.point_eq {log : List LogLine} {offset : UInt64} {point : ResumePoint}
    (h : Faithful log offset point) {p : Place log} (hp : offset.toNat = p.offset) :
    point = p.point := by
  obtain ⟨q, hq, rfl⟩ := h
  rw [Place.eq_of_offset_eq (hq.symm.trans hp)]

namespace ByteStream

open LineSequence

/-- The stream knows that it is at a place: this is what it records there when it is closed. -/
structure MarkedAt {σ : Type} {log : List LogLine} (s : ByteStream σ) (p : Place log) : Prop where
  bytesRead : s.bytesRead.toNat = p.offset
  lastLineId : s.lastLineId = lastId p.passed
  into : (if s.linePending then s.position else s.discard) = p.into

/-- The stream has begun to deliver a line: the place lies in it, and the rest of it is at hand. -/
structure Begun {σ : Type} {log : List LogLine} (s : ByteStream σ) (p : Place log) (line : LogLine)
    (more : List LogLine) : Prop where
  ahead : p.ahead = line :: more
  rest : s.rest = line.bytes.drop p.into
  currentId : s.currentId = some line.id
  discard : s.discard = 0

variable {φ : Type} [PageFetcher φ] [LogBackend φ]

/-- The stream has begun to deliver a line: the place lies in it, the rest of it is at hand, and the
lines behind it are to come. -/
structure Midline (sure : Prop) (stored : List LogLine) {log : List LogLine}
    (s : ByteStream (PagedSource φ)) (p : Place log) (line : LogLine) (more : List LogLine) :
    Prop where
  ahead : p.ahead = line :: more
  rest : s.rest = line.bytes.drop p.into
  currentId : s.currentId = some line.id
  discard : s.discard = 0
  lines : Yields sure stored s.lines more

/-- The stream has the log from a place on still to deliver: either all lines ahead are to come, or
the first of them is the current one. -/
inductive Holds (sure : Prop) (stored : List LogLine) {log : List LogLine}
    (s : ByteStream (PagedSource φ)) (p : Place log) : Prop
  | between (hrest : s.rest = []) (hlines : Yields sure stored s.lines p.ahead)
  | within (line : LogLine) (more : List LogLine) (h : Midline sure stored s p line more)

/-- An open stream over a log stands at a place of it. -/
structure Stands (sure : Prop) (stored : List LogLine) {log : List LogLine}
    (s : ByteStream (PagedSource φ)) (p : Place log) : Prop where
  isOpen : s.lines.isClosed = false
  marked : s.MarkedAt p
  holds : Holds sure stored s p

variable {sure : Prop} {stored log : List LogLine} {s : ByteStream (PagedSource φ)} {p : Place log}

theorem MarkedAt.discard_eq {σ : Type} {s : ByteStream σ} (h : s.MarkedAt p) (hr : s.rest = []) :
    s.discard = p.into := by
  have hinto := h.into
  rwa [if_neg (by simp [linePending, hr])] at hinto

theorem MarkedAt.position_eq {σ : Type} {s : ByteStream σ} (h : s.MarkedAt p) (hr : s.rest ≠ []) :
    s.position = p.into := by
  have hinto := h.into
  rwa [if_pos ((linePending_iff s).mpr hr)] at hinto

/-- A line that is loaded has the bytes passed over that come before the place in it. -/
theorem MarkedAt.loaded {σ : Type} {s : ByteStream σ} (hm : s.MarkedAt p) (hr : s.rest = [])
    {line : LogLine} {more : List LogLine} (hahead : p.ahead = line :: more)
    (lines : LineSequence σ) :
    (s.loaded lines line).MarkedAt p ∧ (s.loaded lines line).Begun p line more := by
  have hdiscard := hm.discard_eq hr
  have hlt := Place.into_lt hahead
  have hrest : (s.loaded lines line).rest = line.bytes.drop p.into := by
    rw [ByteStream.loaded, hdiscard]
  refine ⟨⟨hm.bytesRead, hm.lastLineId, ?_⟩, ⟨hahead, hrest, rfl, rfl⟩⟩
  rw [if_pos ((linePending_iff _).mpr (hrest ▸ Place.drop_into_ne_nil hahead))]
  change min s.discard line.bytes.length = p.into
  omega

/-- The offset counts on to the place that is reached, without overflow. -/
theorem MarkedAt.bytesRead_deliver {σ : Type} {s : ByteStream σ} (hm : s.MarkedAt p)
    (hsize : (render log).length < UInt64.size) {n : Nat} {q : Place log}
    (hq : q.offset = p.offset + (s.deliver n).1.length) :
    (s.deliver n).2.bytesRead.toNat = q.offset := by
  have hle := q.offset_le
  have hcount : (s.deliver n).1.length < UInt64.size := Nat.lt_of_le_of_lt (by omega) hsize
  calc (s.bytesRead + UInt64.ofNat (s.deliver n).1.length).toNat
    _ = (s.bytesRead.toNat + (s.deliver n).1.length) % UInt64.size := by
      rw [UInt64.toNat_add, UInt64.toNat_ofNat_of_lt' hcount]
    _ = q.offset % UInt64.size := by rw [hm.bytesRead, hq]
    _ = q.offset := Nat.mod_eq_of_lt (Nat.lt_of_le_of_lt hle hsize)

section Begun

variable {σ : Type} {s : ByteStream σ} {line : LogLine} {more : List LogLine}

theorem Begun.rest_ne_nil (h : s.Begun p line more) : s.rest ≠ [] := by
  rw [h.rest]
  exact Place.drop_into_ne_nil h.ahead

theorem Begun.length_rest (h : s.Begun p line more) :
    s.rest.length = line.bytes.length - p.into := by
  rw [h.rest, List.length_drop]

theorem Begun.deliver_eq (h : s.Begun p line more) (n : Nat) : (s.deliver n).1 = p.portion n := by
  rw [Place.portion_of_ahead h.ahead, ← h.rest]
  rfl

/-- With its last byte delivered, the line lies behind the stream. -/
theorem Begun.deliver_all (h : s.Begun p line more) (hm : s.MarkedAt p)
    (hsize : (render log).length < UInt64.size) {n : Nat} (hall : s.rest.length ≤ n) :
    ∃ q : Place log, (s.deliver n).2.MarkedAt q ∧ q.offset = p.offset + (s.deliver n).1.length ∧
      (s.deliver n).2.rest = [] ∧ q.ahead = more := by
  have hlt := Place.into_lt h.ahead
  have hlen := h.length_rest
  have hcount : (s.deliver n).1.length = min n s.rest.length := List.length_take
  have hnil : (s.deliver n).2.rest = [] := List.drop_of_length_le hall
  have hend : log = (p.passed ++ [line]) ++ more := by
    rw [List.append_assoc, List.singleton_append, ← h.ahead]
    exact p.split
  have hq : (Place.before (p.passed ++ [line]) more hend).offset =
      p.offset + (s.deliver n).1.length := by
    simp only [Place.offset, Place.before, render_append, List.length_append, render_cons,
      render_nil, List.append_nil, hcount]
    omega
  refine ⟨.before (p.passed ++ [line]) more hend, ⟨hm.bytesRead_deliver hsize hq, ?_, ?_⟩, hq, hnil,
    rfl⟩
  · change (if (s.deliver n).2.rest.isEmpty then s.currentId else s.lastLineId) = _
    rw [if_pos (by simp [hnil]), h.currentId]
    exact (lastId_concat p.passed line).symm
  · rw [if_neg (by simp [linePending, hnil])]
    exact h.discard

/-- With bytes of the line left, the stream stands further on in it. -/
theorem Begun.deliver_part (h : s.Begun p line more) (hm : s.MarkedAt p)
    (hsize : (render log).length < UInt64.size) {n : Nat} (hpart : n < s.rest.length) :
    ∃ q : Place log, (s.deliver n).2.MarkedAt q ∧ q.offset = p.offset + (s.deliver n).1.length ∧
      (s.deliver n).2.Begun q line more := by
  have hlen := h.length_rest
  have hcount : (s.deliver n).1.length = min n s.rest.length := List.length_take
  have hinside : p.into + n < line.bytes.length := by omega
  have hsplit : log = p.passed ++ line :: more := h.ahead ▸ p.split
  have hrest : (s.deliver n).2.rest = line.bytes.drop (p.into + n) := by
    change s.rest.drop n = _
    rw [h.rest, List.drop_drop]
  have hne : (s.deliver n).2.rest ≠ [] := by
    rw [hrest, Ne, List.drop_eq_nil_iff]
    omega
  have hq : (Place.inside p.passed line more hsplit (p.into + n) hinside).offset =
      p.offset + (s.deliver n).1.length := by
    simp only [Place.offset, Place.inside, hcount]
    omega
  refine ⟨.inside p.passed line more hsplit (p.into + n) hinside,
    ⟨hm.bytesRead_deliver hsize hq, ?_, ?_⟩, hq, ⟨rfl, hrest, h.currentId, h.discard⟩⟩
  · change (if (s.deliver n).2.rest.isEmpty then s.currentId else s.lastLineId) = _
    rw [if_neg (by simpa using hne)]
    exact hm.lastLineId
  · rw [if_pos ((linePending_iff _).mpr hne)]
    change s.position + (s.deliver n).1.length = p.into + n
    rw [hm.position_eq h.rest_ne_nil, hcount]
    omega

/-- What is delivered of a line moves the stream on to a place in it or behind it. -/
theorem Begun.deliver (h : s.Begun p line more) (hm : s.MarkedAt p)
    (hsize : (render log).length < UInt64.size) (n : Nat) :
    ∃ q : Place log, (s.deliver n).2.MarkedAt q ∧ q.offset = p.offset + (s.deliver n).1.length ∧
      ((s.deliver n).2.rest = [] ∧ q.ahead = more ∨ (s.deliver n).2.Begun q line more) := by
  by_cases hall : s.rest.length ≤ n
  · obtain ⟨q, hmarked, hoffset, hahead⟩ := h.deliver_all hm hsize hall
    exact ⟨q, hmarked, hoffset, .inl hahead⟩
  · obtain ⟨q, hmarked, hoffset, hbegun⟩ := h.deliver_part hm hsize (Nat.lt_of_not_le hall)
    exact ⟨q, hmarked, hoffset, .inr hbegun⟩

end Begun

section Midline

variable {line : LogLine} {more : List LogLine}

theorem Midline.begun (h : Midline sure stored s p line more) : s.Begun p line more :=
  ⟨h.ahead, h.rest, h.currentId, h.discard⟩

theorem Midline.deliver (h : Midline sure stored s p line more) (ho : s.lines.isClosed = false)
    (hm : s.MarkedAt p) (hsize : (render log).length < UInt64.size) (n : Nat) :
    ∃ q : Place log, (s.deliver n).2.Stands sure stored q ∧
      q.offset = p.offset + (s.deliver n).1.length := by
  obtain ⟨q, hmarked, hoffset, hcoming⟩ := h.begun.deliver hm hsize n
  refine ⟨q, ⟨ho, hmarked, ?_⟩, hoffset⟩
  rcases hcoming with ⟨hrest, hahead⟩ | hbegun
  · exact .between hrest (hahead ▸ h.lines)
  · exact .within line more
      ⟨hbegun.ahead, hbegun.rest, hbegun.currentId, hbegun.discard, h.lines⟩

end Midline

/-- A read moves the stream along the log by the bytes that it delivers, and none come only at the
end. One that fails leaves the stream where it was. -/
theorem Stands.read (h : s.Stands sure stored p) (hsize : (render log).length < UInt64.size) (n : Nat)
    (hq : (s.read n).2.lines.source.cursor.tripped = none) :
    (∃ (q : Place log) (data : List UInt8), (s.read n).1 = .ok data ∧
      (s.read n).2.Stands sure stored q ∧ q.offset = p.offset + data.length ∧
      data <+: (render log).drop p.offset ∧ (n ≠ 0 → (data = [] ↔ p.ahead = []))) ∨
    ((∃ e, (s.read n).1 = .error e) ∧ ¬ sure ∧ (s.read n).2.MarkedAt p) := by
  by_cases hn : n = 0
  · left
    rw [hn, read_zero h.isOpen]
    exact ⟨p, [], rfl, h, rfl, List.nil_prefix, fun hne => absurd rfl hne⟩
  have hopen := (s.isClosed_read n).trans h.isOpen
  cases h.holds with
  | between hrest hlines =>
    rw [read_of_idle h.isOpen hn hrest] at hq hopen ⊢
    have htripped : s.lines.nextLine.2.source.cursor.tripped = none := by
      revert hq
      split <;> exact id
    -- Without bytes at hand a line is taken from the sequence.
    rcases hlines.nextLine h.isOpen htripped with ⟨hans, hy⟩ | ⟨⟨e, he⟩, hsure⟩
    · left
      cases hahead : p.ahead with
      | nil =>
        -- No line lies ahead, so the place is the end of the log.
        rw [hahead] at hans hy
        simp only [hans, List.head?_nil] at hopen ⊢
        have hinto := Place.into_of_ahead_eq_nil hahead
        refine ⟨p, [], rfl, ⟨hopen, ⟨h.marked.bytesRead, h.marked.lastLineId, hinto.symm⟩, ?_⟩, rfl,
          List.nil_prefix, fun _ => by simp⟩
        exact .between rfl (hahead ▸ hy)
      | cons line more =>
        rw [hahead] at hans hy
        simp only [hans, List.head?_cons] at hopen ⊢
        -- The line becomes the current one, from the place on.
        obtain ⟨hm, hbegun⟩ := h.marked.loaded hrest hahead s.lines.nextLine.2
        have hmid : Midline sure stored (s.loaded s.lines.nextLine.2 line) p line more :=
          ⟨hahead, hbegun.rest, rfl, rfl, hy⟩
        obtain ⟨q, hstands, hoffset⟩ := hmid.deliver hopen hm hsize n
        have hportion := hbegun.deliver_eq n
        refine ⟨q, _, rfl, hstands, hoffset, hportion ▸ p.portion_prefix n, fun _ => ?_⟩
        rw [hportion, p.portion_eq_nil_iff hn, hahead]
    · -- A fetch failed before anything of the stream changed.
      right
      rw [he]
      exact ⟨⟨_, rfl⟩, hsure, ⟨h.marked.bytesRead, h.marked.lastLineId, h.marked.into⟩⟩
  | within line more hmid =>
    left
    rw [read_of_pending h.isOpen hn hmid.begun.rest_ne_nil]
    obtain ⟨q, hstands, hoffset⟩ := hmid.deliver h.isOpen h.marked hsize n
    have hportion := hmid.begun.deliver_eq n
    refine ⟨q, _, rfl, hstands, hoffset, hportion ▸ p.portion_prefix n, fun _ => ?_⟩
    rw [hportion, p.portion_eq_nil_iff hn]

/-- Asking whether more is available leaves the stream where it was. -/
theorem Stands.available (h : s.Stands sure stored p)
    (hq : s.available.2.lines.source.cursor.tripped = none) :
    (s.available.1 = .ok !p.ahead.isEmpty ∧ s.available.2.Stands sure stored p ∧
      s.available.2.rest = s.rest) ∨
    ((∃ e, s.available.1 = .error e) ∧ ¬ sure ∧ s.available.2.MarkedAt p) := by
  cases h.holds with
  | between hrest hlines =>
    have hopen := s.lines.isClosed_hasNext.trans h.isOpen
    rw [available_of_idle h.isOpen hrest] at hq ⊢
    have htripped : s.lines.hasNext.2.source.cursor.tripped = none := by
      revert hq
      split <;> exact id
    have hm : ({ s with lines := s.lines.hasNext.2 } : ByteStream (PagedSource φ)).MarkedAt p :=
      ⟨h.marked.bytesRead, h.marked.lastLineId, h.marked.into⟩
    rcases hlines.hasNext h.isOpen htripped with ⟨hans, hy, -⟩ | ⟨⟨e, he⟩, hsure⟩
    · left
      rw [hans]
      exact ⟨rfl, ⟨hopen, hm, .between hrest hy⟩, rfl⟩
    · right
      rw [he]
      exact ⟨⟨_, rfl⟩, hsure, hm⟩
  | within line more hmid =>
    left
    rw [available_of_pending h.isOpen hmid.begun.rest_ne_nil, hmid.ahead]
    exact ⟨rfl, h, rfl⟩

theorem markedAt_jump {σ : Type} [PageSupply σ] (s : ByteStream σ)
    (hsize : (render log).length < UInt64.size) {target : UInt64} (htarget : target.toNat = p.offset) :
    (s.jump target p.point).MarkedAt p := by
  have hle : p.into ≤ (render log).length := Nat.le_trans (Nat.le_add_left _ _) p.offset_le
  exact ⟨htarget, rfl, UInt64.toNat_ofNat_of_lt' (Nat.lt_of_le_of_lt hle hsize)⟩

theorem isClosed_jump {σ : Type} [PageSupply σ] (s : ByteStream σ) (target : UInt64)
    (point : ResumePoint) : (s.jump target point).lines.isClosed = s.lines.isClosed := by
  rw [ByteStream.jump]
  cases point.after <;> rfl

/-- A jump takes from the lines to come those up to the last line that the point names. -/
theorem yields_jump {rest : List LogLine} (h : Yields sure stored s.lines rest) (target : UInt64)
    (p : Place log) : Yields sure stored (s.jump target p.point).lines (behindPage p.passed rest) := by
  rw [ByteStream.jump, Place.point, behindPage]
  dsimp only
  cases lastId p.passed with
  | none => exact h
  | some id => exact h.skipTo id

/-- The lines to come are those behind the line that is being read. -/
theorem Holds.upcoming (h : Holds sure stored s p) :
    ∃ front rest, log = front ++ rest ∧ Yields sure stored s.lines rest ∧
      (render front).length ≤ p.offset + s.rest.length := by
  cases h with
  | between hrest hlines =>
    refine ⟨p.passed, p.ahead, p.split, hlines, ?_⟩
    rw [Place.offset]
    omega
  | within line more hmid =>
    have hlen := hmid.begun.length_rest
    have hsplit : log = (p.passed ++ [line]) ++ more := by
      rw [List.append_assoc, List.singleton_append, ← hmid.ahead]
      exact p.split
    refine ⟨p.passed ++ [line], more, hsplit, hmid.lines, ?_⟩
    rw [render_append, List.length_append, render_cons, render_nil, List.append_nil, Place.offset, hlen]
    omega

theorem Stands.offset_add_rest_le (h : s.Stands sure stored p) :
    p.offset + s.rest.length ≤ (render log).length := by
  cases h.holds with
  | between hrest hlines =>
    rw [hrest]
    exact p.offset_le
  | within line more hmid =>
    have hlt := Place.into_lt hmid.ahead
    have hlen := hmid.begun.length_rest
    rw [p.length_render, hmid.ahead, render_cons, List.length_append, Place.offset, hlen]
    omega

/-- At the begin of a log all of it is still to come. -/
theorem Stands.ascending_of_begin (h : s.Stands sure stored p) (hr : s.rest = [])
    (hbegin : p.offset = 0) : Ascending log := by
  obtain ⟨hpassed, -⟩ := Place.passed_of_offset_eq_zero hbegin
  rw [← Place.ahead_of_passed_eq_nil hpassed]
  cases h.holds with
  | between _ hlines => exact hlines.ascending
  | within line more hmid => exact absurd hr hmid.begun.rest_ne_nil

/-- A jump to a point of the log lands on the place that the point names, unless that lies within the
line that is being read. -/
theorem Stands.jump {q : Place log} (h : s.Stands sure stored q) (hasc : Ascending log)
    (hclear : q.offset + s.rest.length ≤ p.offset) (hsize : (render log).length < UInt64.size)
    {target : UInt64} (htarget : target.toNat = p.offset) :
    (s.jump target p.point).Stands sure stored p := by
  obtain ⟨front, rest, hsplit, hlines, hle⟩ := h.holds.upcoming
  refine ⟨(s.isClosed_jump _ _).trans h.isOpen, s.markedAt_jump hsize htarget, .between rfl ?_⟩
  rw [← p.behindPage_passed hsplit hasc (Nat.le_trans hle hclear)]
  exact yields_jump hlines target p

/-- A stream records the place where it stands, unless nothing was delivered. -/
theorem MarkedAt.resumePoint? {σ : Type} {s : ByteStream σ} (h : s.MarkedAt p) :
    s.resumePoint? = some p.point ∨ (s.resumePoint? = none ∧ p.offset = 0) := by
  rw [ByteStream.resumePoint?, h.into, h.lastLineId]
  by_cases hsome : ((lastId p.passed).isSome || decide (0 < p.into)) = true
  · left
    exact if_pos hsome
  · right
    refine ⟨if_neg hsome, ?_⟩
    simp only [Bool.or_eq_true, decide_eq_true_eq, not_or] at hsome
    have hnil : p.passed = [] := by simpa [lastId] using hsome.1
    rw [Place.offset, hnil, Nat.eq_zero_of_not_pos hsome.2]
    rfl

end ByteStream

end RunLog
