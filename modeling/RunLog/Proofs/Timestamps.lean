import Mathlib.Algebra.Group.Int.Defs
import RunLog.Loki.Retriever
import RunLog.Proofs.Log

namespace RunLog

/-- A number as a word, or the greatest word if it is past that. -/
def saturated (n : Nat) : UInt64 := UInt64.ofNat (min n (UInt64.size - 1))

theorem toNat_saturated (n : Nat) : (saturated n).toNat = min n 18446744073709551615 :=
  UInt64.toNat_ofNat_of_lt' (Nat.lt_of_le_of_lt (Nat.min_le_right _ _) (by decide))

namespace Instant

/-- Earlier seconds come first, and within a second fewer nanoseconds. -/
instance : LE Instant :=
  ⟨fun s t => s.seconds < t.seconds ∨ s.seconds = t.seconds ∧ s.nanos ≤ t.nanos⟩

instance (s t : Instant) : Decidable (s ≤ t) :=
  inferInstanceAs (Decidable (s.seconds < t.seconds ∨ s.seconds = t.seconds ∧ s.nanos ≤ t.nanos))

/-- The instant lies in no leap second. -/
def IsPlain (t : Instant) : Prop := t.nanos < nanosPerSecond

instance (t : Instant) : Decidable t.IsPlain := inferInstanceAs (Decidable (t.nanos < nanosPerSecond))

/-- Nanoseconds since 1970 without any bounds, negative before it. -/
def exactNanos (t : Instant) : Int := t.seconds * nanosPerSecond + t.nanos

/-- The count of nanoseconds in words: a product and then a sum, each of which stops at the greatest
word. -/
def epochWord (t : Instant) : UInt64 :=
  if t.seconds < 0 then 0
  else
    let product := saturated (t.seconds.toNat * nanosPerSecond)
    saturated (product.toNat + t.nanos)

/-- The instant that a word counts. Its seconds are a signed word and its nanoseconds a shorter one, and
the calendar is asked for an instant of these parts. -/
def ofWord? (n : UInt64) : Option Instant :=
  ofParts? (n / 1000000000).toInt64.toInt (n % 1000000000).toUInt32.toNat

variable {s t : Instant}

theorem le_iff : s ≤ t ↔ s.seconds < t.seconds ∨ s.seconds = t.seconds ∧ s.nanos ≤ t.nanos := Iff.rfl

theorem isPlain_iff : t.IsPlain ↔ t.nanos < 1000000000 := Iff.rfl

theorem exactNanos_eq (t : Instant) : t.exactNanos = t.seconds * 1000000000 + t.nanos := rfl

theorem eq_of_parts (hseconds : s.seconds = t.seconds) (hnanos : s.nanos = t.nanos) : s = t := by
  cases s
  cases t
  cases hseconds
  cases hnanos
  rfl

/-- Without leap seconds the order of instants is that of their exact counts. -/
theorem le_iff_exactNanos_le (hs : s.IsPlain) (ht : t.IsPlain) :
    s ≤ t ↔ s.exactNanos ≤ t.exactNanos := by
  rw [isPlain_iff] at hs ht
  rw [le_iff, exactNanos_eq, exactNanos_eq]
  omega

theorem eq_of_exactNanos_eq (hs : s.IsPlain) (ht : t.IsPlain) (h : s.exactNanos = t.exactNanos) :
    s = t := by
  rw [isPlain_iff] at hs ht
  rw [exactNanos_eq, exactNanos_eq] at h
  apply eq_of_parts
  · omega
  · omega

section Counting

theorem epochNanos_of_neg (h : t.seconds < 0) : t.epochNanos = 0 := if_pos h

theorem epochNanos_of_nonneg (h : 0 ≤ t.seconds) :
    t.epochNanos = min (t.seconds.toNat * 1000000000 + t.nanos) 18446744073709551615 :=
  if_neg (Int.not_lt.mpr h)

/-- The count of an instant is the exact one, or the nearer end of the scale. -/
theorem epochNanos_eq_clamp (h : t.IsPlain) :
    (t.epochNanos : Int) = max 0 (min t.exactNanos 18446744073709551615) := by
  rw [isPlain_iff] at h
  rw [exactNanos_eq]
  rcases Int.lt_or_le t.seconds 0 with hneg | hnonneg
  · -- The nanoseconds do not make up for a whole second.
    rw [epochNanos_of_neg hneg]
    omega
  · rw [epochNanos_of_nonneg hnonneg]
    omega

/-- Stopping at the greatest word after the product and after the sum is stopping there once. -/
theorem toNat_epochWord (t : Instant) : t.epochWord.toNat = t.epochNanos := by
  unfold epochWord
  split
  · next hneg =>
    rw [epochNanos_of_neg hneg]
    rfl
  · next hnonneg =>
    have hproduct : (saturated (t.seconds.toNat * nanosPerSecond)).toNat =
        min (t.seconds.toNat * 1000000000) 18446744073709551615 := toNat_saturated _
    rw [epochNanos_of_nonneg (Int.not_lt.mp hnonneg), toNat_saturated, hproduct]
    omega

/-- An instant at or after another one has no lesser count. -/
theorem epochNanos_le (hs : s.IsPlain) (ht : t.IsPlain) (h : s ≤ t) : s.epochNanos ≤ t.epochNanos := by
  have hexact : s.exactNanos ≤ t.exactNanos := (le_iff_exactNanos_le hs ht).mp h
  have hfirst := epochNanos_eq_clamp hs
  have hsecond := epochNanos_eq_clamp ht
  omega

/-- A leap second is counted into the second that follows it, and so above instants of that second. -/
example :
    let leap : Instant := { seconds := 59, nanos := 1500000000 }
    let later : Instant := { seconds := 60, nanos := 200000000 }
    leap ≤ later ∧ later.epochNanos < leap.epochNanos := by decide

end Counting

section Inverse

variable {n : Nat} (hn : n < 18446744073709551616)
include hn

theorem isPlain_ofEpochNanos : (ofEpochNanos n hn).IsPlain := Nat.mod_lt n (by decide)

theorem exactNanos_ofEpochNanos : (ofEpochNanos n hn).exactNanos = n := by
  have hparts : 1000000000 * (n / 1000000000) + n % 1000000000 = n := Nat.div_add_mod n 1000000000
  rw [exactNanos_eq]
  change ((n / 1000000000 : Nat) : Int) * 1000000000 + (n % 1000000000 : Nat) = n
  omega

theorem epochNanos_ofEpochNanos : (ofEpochNanos n hn).epochNanos = n := by
  have hclamp := epochNanos_eq_clamp (isPlain_ofEpochNanos hn)
  rw [exactNanos_ofEpochNanos hn] at hclamp
  omega

/-- An instant without a leap second is not after that of a count exactly if its own count, without
bounds, is not above it. -/
theorem le_ofEpochNanos_iff (ht : t.IsPlain) : t ≤ ofEpochNanos n hn ↔ t.exactNanos ≤ n := by
  rw [le_iff_exactNanos_le ht (isPlain_ofEpochNanos hn), exactNanos_ofEpochNanos hn]

end Inverse

/-- An instant comes back from its count exactly if it lies in no leap second and on the scale. -/
theorem ofEpochNanos_epochNanos_iff : ofEpochNanos t.epochNanos t.epochNanos_lt = t ↔
    t.IsPlain ∧ 0 ≤ t.exactNanos ∧ t.exactNanos ≤ 18446744073709551615 := by
  have hexact := exactNanos_ofEpochNanos t.epochNanos_lt
  constructor
  · intro hback
    have hplain := isPlain_ofEpochNanos t.epochNanos_lt
    have hlt := t.epochNanos_lt
    rw [hback] at hexact hplain
    refine ⟨hplain, ?_, ?_⟩
    · omega
    · omega
  · rintro ⟨hplain, hnonneg, hbound⟩
    have hclamp := epochNanos_eq_clamp hplain
    apply eq_of_exactNanos_eq (isPlain_ofEpochNanos _) hplain
    rw [hexact]
    omega

/-- The calendar has an instant for every word, and no part of it changes in a signed or shorter word. -/
theorem ofWord?_eq (n : UInt64) : ofWord? n = some (ofEpochNanos n.toNat n.toNat_lt) := by
  have hlt : n.toNat < 18446744073709551616 := n.toNat_lt
  have hquotient : (n / 1000000000).toNat = n.toNat / 1000000000 := UInt64.toNat_div _ _
  have hremainder : (n % 1000000000).toNat = n.toNat % 1000000000 := UInt64.toNat_mod _ _
  have hseconds : (n / 1000000000).toInt64.toInt = (n.toNat / 1000000000 : Nat) := by
    rw [← hquotient]
    -- The quotient is so small that the sign of its word is not set.
    apply BitVec.toInt_eq_toNat_of_lt
    change 2 * (n / 1000000000).toNat < 18446744073709551616
    omega
  have hnanos : (n % 1000000000).toUInt32.toNat = n.toNat % 1000000000 := by
    rw [UInt64.toNat_toUInt32, hremainder]
    omega
  rw [ofWord?, hseconds, hnanos]
  apply dif_pos
  omega

end Instant

namespace LineId

theorem toNat_ofInstant (t : Instant) : (ofInstant t).nanos.toNat = t.epochNanos :=
  UInt64.toNat_ofNat_of_lt' t.epochNanos_lt

theorem ofInstant_le_ofInstant {s t : Instant} (hs : s.IsPlain) (ht : t.IsPlain) (h : s ≤ t) :
    ofInstant s ≤ ofInstant t := by
  rw [le_iff, toNat_ofInstant, toNat_ofInstant]
  exact Instant.epochNanos_le hs ht h

theorem ofInstant_le {t : Instant} (ht : t.IsPlain) {id : LineId} (h : t ≤ id.toInstant) :
    ofInstant t ≤ id := by
  have hbelow : t.exactNanos ≤ id.nanos.toNat := (Instant.le_ofEpochNanos_iff _ ht).mp h
  have hclamp := Instant.epochNanos_eq_clamp ht
  have hlt : id.nanos.toNat < 18446744073709551616 := id.nanos.toNat_lt
  rw [le_iff, toNat_ofInstant]
  omega

/-- Up to the end of the scale, an id not below that of an instant has an instant not before it. -/
theorem le_toInstant {t : Instant} (ht : t.IsPlain) (hend : t.exactNanos ≤ 18446744073709551615)
    {id : LineId} (h : ofInstant t ≤ id) : t ≤ id.toInstant := by
  have hclamp := Instant.epochNanos_eq_clamp ht
  rw [le_iff, toNat_ofInstant] at h
  apply (Instant.le_ofEpochNanos_iff _ ht).mpr
  omega

end LineId

/-- The two conversions between instants and counts are exact and keep the order. A word comes back from
its instant, which the calendar always has. The count of an instant is the exact one or the nearer end of
the scale, also when it is computed in words; so it comes back from its count exactly if it lies on the
scale and in no leap second, and outside of leap seconds a later instant has no lesser count. In
particular, the end of a run is counted no less than its start, and the window of the first query holds
every id whose instant is not before the start, and no other unless the start lies behind the scale. -/
theorem conversions_exact :
    (∀ n : UInt64, ∃ t, Instant.ofWord? n = some t ∧ t = Instant.ofEpochNanos n.toNat n.toNat_lt ∧
      t.epochNanos = n.toNat) ∧
    (∀ t : Instant, t.epochWord.toNat = t.epochNanos ∧
      (t.IsPlain → (t.epochNanos : Int) = max 0 (min t.exactNanos (2 ^ 64 - 1))) ∧
      (Instant.ofEpochNanos t.epochNanos t.epochNanos_lt = t ↔
        t.IsPlain ∧ 0 ≤ t.exactNanos ∧ t.exactNanos ≤ 2 ^ 64 - 1)) ∧
    (∀ s t : Instant, s.IsPlain → t.IsPlain → s ≤ t → s.epochNanos ≤ t.epochNanos) ∧
    ∀ scope : RunScope, scope.startTime.IsPlain →
      (∀ last, scope.endTime = some last → last.IsPlain → scope.startTime ≤ last →
        ∃ endId, scope.endId = some endId ∧ scope.startId ≤ endId) ∧
      ∀ {τ : Type} (retriever : Loki.Retriever τ) (id : LineId),
        (scope.startTime ≤ id.toInstant → (retriever.pageSource scope).cursor.windowStart ≤ id) ∧
        (scope.startTime.exactNanos ≤ 2 ^ 64 - 1 →
          (retriever.pageSource scope).cursor.windowStart ≤ id → scope.startTime ≤ id.toInstant) := by
  refine ⟨?_, ?_, fun s t => Instant.epochNanos_le, ?_⟩
  · intro n
    exact ⟨_, Instant.ofWord?_eq n, rfl, Instant.epochNanos_ofEpochNanos _⟩
  · intro t
    exact ⟨t.toNat_epochWord, Instant.epochNanos_eq_clamp, Instant.ofEpochNanos_epochNanos_iff⟩
  · intro scope hstart
    refine ⟨?_, ?_⟩
    · intro last hlast hplain hle
      refine ⟨.ofInstant last, ?_, LineId.ofInstant_le_ofInstant hstart hplain hle⟩
      rw [RunScope.endId, hlast, Option.map_some]
    · intro τ retriever id
      -- The first window starts at the id of the start.
      have hwindow : (retriever.pageSource scope).cursor.windowStart = .ofInstant scope.startTime := rfl
      rw [hwindow]
      refine ⟨LineId.ofInstant_le hstart, ?_⟩
      intro hend hbehind
      exact LineId.le_toInstant hstart hend hbehind

/-- A run of half a second: both its ends are counted to the nanosecond, and in order. -/
theorem conversions_exact_halfSecond : ∃ start last : Instant,
    (Instant.ofParts? 1718111754 515426123 = some start ∧ Instant.ofParts? 1718111755 0 = some last) ∧
    (start.IsPlain ∧ last.IsPlain ∧ start ≤ last) ∧
    start.epochNanos = 1718111754515426123 ∧
    Instant.ofEpochNanos start.epochNanos start.epochNanos_lt = start ∧
    ∃ endId, RunScope.endId ⟨"ci", 1, "t", none, start, some last⟩ = some endId ∧
      RunScope.startId ⟨"ci", 1, "t", none, start, some last⟩ ≤ endId := by
  let start : Instant := { seconds := 1718111754, nanos := 515426123 }
  let last : Instant := { seconds := 1718111755, nanos := 0 }
  have hplain : start.IsPlain := by decide
  have hlast : last.IsPlain := by decide
  have horder : start ≤ last := by decide
  have hexact : start.exactNanos = 1718111754515426123 := by decide
  obtain ⟨-, hcounts, -, hscopes⟩ := conversions_exact
  obtain ⟨-, hclamp, hback⟩ := hcounts start
  have hcount := hclamp hplain
  rw [hexact] at hcount hback
  have hends := (hscopes ⟨"ci", 1, "t", none, start, some last⟩ hplain).1 last rfl hlast horder
  refine ⟨start, last, ⟨rfl, rfl⟩, ⟨hplain, hlast, horder⟩, ?_,
    hback.mpr ⟨hplain, by decide, by decide⟩, hends⟩
  omega

end RunLog
