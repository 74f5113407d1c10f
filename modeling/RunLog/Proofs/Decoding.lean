import RunLog.Text.Blank
import RunLog.Text.Utf8

namespace RunLog.Text

/-- What a first byte says: it is below 128 and stands for itself, or it begins a character of several
bytes, none of which is below 128, and the first two of them make a number that is not below 16. -/
theorem lead?_cases {b value : Nat} {bounds : List Bounds} (h : lead? b = some (value, bounds)) :
    (b < 128 ∧ value = b ∧ bounds = []) ∨
      ∃ least greatest more, bounds = (least, greatest) :: more ∧ greatest ≤ 191 ∧
        (∀ bound ∈ bounds, 128 ≤ bound.1) ∧ 16 ≤ value * 64 + (least - 128) := by
  unfold lead? continuation at h
  split at h
  · next hb =>
    obtain ⟨rfl, rfl⟩ := Prod.mk.inj (Option.some.inj h)
    exact .inl ⟨hb, rfl, rfl⟩
  · right
    -- One case for each row of the table.
    repeat' split at h
    all_goals simp only [Option.some.injEq, Prod.mk.injEq, reduceCtorEq] at h
    all_goals
      obtain ⟨rfl, rfl⟩ := h
      refine ⟨_, _, _, rfl, by decide, by simp, ?_⟩
      omega

/-- The number only grows with the bytes that follow. -/
theorem le_of_follow {value code : Nat} {bounds : List Bounds} {bytes rest : List UInt8}
    (h : follow value bounds bytes = (some code, rest)) : value ≤ code := by
  fun_induction follow value bounds bytes with
  | case1 value bytes => exact Nat.le_of_eq (Option.some.inj (congrArg Prod.fst h))
  | case2 => simp at h
  | case3 value least greatest bounds b bytes _ ih =>
    have hle := ih h
    omega
  | case4 => simp at h

/-- No character of several bytes is below 16, where the newline is. -/
theorem le_of_follow_cons {value code least greatest : Nat} {more : List Bounds}
    {bytes rest : List UInt8} (hgreatest : greatest ≤ 191) (hleast : 128 ≤ least)
    (hlarge : 16 ≤ value * 64 + (least - 128))
    (h : follow value ((least, greatest) :: more) bytes = (some code, rest)) : 16 ≤ code := by
  cases bytes with
  | nil => simp [follow] at h
  | cons b bytes =>
    rw [follow] at h
    split at h
    · next hb =>
      simp only [Bool.and_eq_true, decide_eq_true_eq] at hb
      -- The second byte is at least `least`, so it adds at least as much as that.
      have hle := le_of_follow h
      omega
    · simp at h

theorem follow_suffix (value : Nat) (bounds : List Bounds) (bytes : List UInt8) :
    (follow value bounds bytes).2 <:+ bytes := by
  fun_induction follow value bounds bytes with
  | case1 | case4 => exact List.suffix_refl _
  | case2 => exact List.nil_suffix
  | case3 value least greatest bounds b bytes _ ih => exact ih.trans (List.suffix_cons b bytes)

/-- Where bytes that are not below 128 must follow, one that is below ends a character. -/
theorem follow_append {c : UInt8} (hc : c.toNat < 128) {value : Nat} {bounds : List Bounds}
    (hbounds : ∀ bound ∈ bounds, 128 ≤ bound.1) (bytes rest : List UInt8) :
    follow value bounds (bytes ++ c :: rest) =
      ((follow value bounds bytes).1, (follow value bounds bytes).2 ++ c :: rest) := by
  fun_induction follow value bounds bytes with
  | case1 => rw [follow]
  | case2 value bound bounds =>
    obtain ⟨least, greatest⟩ := bound
    have hleast : 128 ≤ least := hbounds (least, greatest) List.mem_cons_self
    rw [List.nil_append, follow, if_neg (by simp; omega)]
  | case3 value least greatest bounds b bytes hb ih =>
    rw [List.cons_append, follow, if_pos hb]
    exact ih fun bound hmem => hbounds bound (List.mem_cons_of_mem _ hmem)
  | case4 value least greatest bounds b bytes hb =>
    rw [List.cons_append, follow, if_neg hb]

theorem decodeChars_ascii {c : UInt8} (hc : c.toNat < 128) (rest : List UInt8) :
    decodeChars (c :: rest) = Char.ofNat c.toNat :: decodeChars rest := by
  have hlead : lead? c.toNat = some (c.toNat, []) := if_pos hc
  rw [decodeChars, hlead]
  rfl

/-- Bytes are decoded in parts around one that is below 128. -/
theorem decodeChars_append {c : UInt8} (hc : c.toNat < 128) (bytes rest : List UInt8) :
    decodeChars (bytes ++ c :: rest) =
      decodeChars bytes ++ Char.ofNat c.toNat :: decodeChars rest := by
  fun_induction decodeChars bytes with
  | case1 => exact decodeChars_ascii hc rest
  | case2 b bytes hlead ih =>
    rw [List.cons_append, decodeChars, hlead]
    exact congrArg (replacement :: ·) ih
  | case3 b bytes value bounds hlead followed ih =>
    have hbounds : ∀ bound ∈ bounds, 128 ≤ bound.1 := by
      rcases lead?_cases hlead with ⟨-, -, rfl⟩ | ⟨least, greatest, more, -, -, hall, -⟩
      · exact nofun
      · exact hall
    rw [List.cons_append, decodeChars, hlead]
    dsimp only
    rw [follow_append hc hbounds, ih]
    rfl

theorem eq_ten_of_ofNat {code : Nat} (h : Char.ofNat code = '\n') : code = 10 := by
  by_cases hvalid : code.isValidChar
  · have hof : Char.ofNat code = Char.ofNatAux code hvalid := dif_pos hvalid
    exact congrArg Char.toNat (hof.symm.trans h)
  · have hof : Char.ofNat code = '\x00' := dif_neg hvalid
    exact absurd (hof.symm.trans h) (by decide)

/-- A newline comes from a newline. -/
theorem newline_mem_of_decodeChars {bytes : List UInt8} (h : '\n' ∈ decodeChars bytes) :
    10 ∈ bytes := by
  fun_induction decodeChars bytes with
  | case1 => exact nomatch h
  | case2 b bytes hlead ih =>
    rcases List.mem_cons.mp h with heq | hmem
    · exact absurd heq (by decide)
    · exact List.mem_cons_of_mem b (ih hmem)
  | case3 b bytes value bounds hlead followed ih =>
    rcases List.mem_cons.mp h with heq | hmem
    · cases hcode : followed.1 with
      | none =>
        rw [hcode] at heq
        exact absurd heq (by decide)
      | some code =>
        rw [hcode] at heq
        have hten : code = 10 := eq_ten_of_ofNat heq.symm
        have hfollow : follow value bounds bytes = (some code, followed.2) := Prod.ext hcode rfl
        rcases lead?_cases hlead with
          ⟨-, rfl, rfl⟩ | ⟨least, greatest, more, rfl, hgreatest, hall, hlarge⟩
        · rw [follow, Prod.mk.injEq, Option.some.injEq] at hfollow
          have hb : b = 10 := UInt8.toNat_inj.mp (hfollow.1.trans hten)
          exact hb ▸ List.mem_cons_self
        · have hleast : 128 ≤ least := hall (least, greatest) List.mem_cons_self
          have hle := le_of_follow_cons hgreatest hleast hlarge hfollow
          omega
    · exact List.mem_cons_of_mem b ((follow_suffix value bounds bytes).mem (ih hmem))

theorem dropWhile_of_not_mem {c : Char} {chars : List Char} (h : c ∉ chars) :
    chars.dropWhile (· = c) = chars := by
  cases chars with
  | nil => rfl
  | cons first chars =>
    have hne : ¬ first = c := fun heq => h (heq ▸ List.mem_cons_self)
    rw [List.dropWhile_cons_of_neg (by simp [hne])]

/-- The end of a line is no part of its text, and it may be missing. -/
theorem dropEnd_decodeLossy {bytes : List UInt8} (h : 10 ∉ bytes) :
    dropEnd (· = '\n') (decodeLossy bytes) = decodeLossy bytes ∧
      dropEnd (· = '\n') (decodeLossy (bytes ++ [10])) = decodeLossy bytes := by
  have hkept : (decodeChars bytes).reverse.dropWhile (· = '\n') = (decodeChars bytes).reverse :=
    dropWhile_of_not_mem fun hmem => h (newline_mem_of_decodeChars (List.mem_reverse.mp hmem))
  have hend : decodeChars (bytes ++ [10]) = decodeChars bytes ++ ['\n'] := by
    rw [decodeChars_append (by decide), decodeChars]
    rfl
  refine ⟨?_, ?_⟩
  · rw [dropEnd, decodeLossy, String.toList_ofList, hkept, List.reverse_reverse]
  · rw [dropEnd, decodeLossy, String.toList_ofList, hend, List.reverse_concat,
      List.dropWhile_cons_of_pos (by decide), hkept, List.reverse_reverse, decodeLossy]

end RunLog.Text
