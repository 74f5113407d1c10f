import RunLog.Proofs.JsonText

namespace RunLog.Json

open Token

namespace Token

section More

variable {cs rest : List Char} (more : List Char)

theorem scanString_append {part : StringPart} {s : Key} (h : scanString part cs = some (s, rest)) :
    scanString part (cs ++ more) = some (s, rest ++ more) := by
  fun_induction scanString part cs with
  | case1 => cases h
  | case2 part tail =>
    obtain ⟨rfl, rfl⟩ := Prod.mk.inj (Option.some.inj h)
    rfl
  | case3 part a b c d tail unit hunit ih =>
    simp only [List.cons_append, scanString, hunit]
    exact ih h
  | case4 => cases h
  | case5 part c tail hnot plain hplain ih =>
    have hu : c ≠ 'u' := by
      rintro rfl
      cases hplain
    rw [List.cons_append, List.cons_append, scanString_letter hplain hu]
    exact ih h
  | case6 => cases h
  | case7 => cases h
  | case8 part c tail hquote hlong hslash hplain ih =>
    have hc : c ≠ '\\' := by
      rintro rfl
      exact hplain rfl
    rw [List.cons_append, scanString, if_neg hplain]
    · exact ih h
    · exact hquote
    · exact fun _ _ _ _ _ heq => absurd heq hc
    · exact fun _ _ heq => absurd heq hc

/-- Digits that something follows are all there. -/
theorem scanDigits_append {reversed : List Nat} (h : (scanDigits reversed cs).2 ≠ []) :
    scanDigits reversed (cs ++ more) =
      ((scanDigits reversed cs).1, (scanDigits reversed cs).2 ++ more) := by
  fun_induction scanDigits reversed cs with
  | case1 => exact absurd rfl h
  | case2 reversed c tail d hd ih =>
    rw [List.cons_append, scanDigits, hd]
    exact ih h
  | case3 reversed c tail hd => rw [List.cons_append, scanDigits, hd]

theorem scanFraction_append {digits : List Nat} (h : scanFraction cs = some (digits, rest))
    (hne : rest ≠ []) : scanFraction (cs ++ more) = some (digits, rest ++ more) := by
  unfold scanFraction at h
  split at h
  · next tail =>
    dsimp only at h
    split at h
    · cases h
    · next hdigits =>
      have hrun : scanDigits [] tail = (digits, rest) := Option.some.inj h
      have hleft : (scanDigits [] tail).2 ≠ [] := by
        rw [hrun]
        exact hne
      rw [List.cons_append, scanFraction, scanDigits_append more hleft, hrun]
      rw [hrun] at hdigits
      exact if_neg hdigits
  · next hnot =>
    obtain ⟨rfl, rfl⟩ := Prod.mk.inj (Option.some.inj h)
    obtain ⟨c, tail, rfl⟩ := List.exists_cons_of_ne_nil hne
    rw [List.cons_append, scanFraction]
    exact fun _ heq => hnot _ (congrArg (· :: tail) (List.cons.inj heq).1)

theorem scanSign_append (hne : cs ≠ []) :
    scanSign (cs ++ more) = ((scanSign cs).1, (scanSign cs).2 ++ more) := by
  obtain ⟨c, tail, rfl⟩ := List.exists_cons_of_ne_nil hne
  rw [List.cons_append]
  unfold scanSign
  split <;> simp_all

theorem scanExponent_append {exponent : Option Int} (h : scanExponent cs = some (exponent, rest))
    (hne : rest ≠ []) : scanExponent (cs ++ more) = some (exponent, rest ++ more) := by
  unfold scanExponent at h
  split at h
  · next c tail =>
    split at h
    · next hletter =>
      dsimp only at h
      split at h
      · cases h
      · next hdigits =>
        obtain ⟨rfl, rfl⟩ := Prod.mk.inj (Option.some.inj h)
        have htail : tail ≠ [] := by
          rintro rfl
          exact hdigits rfl
        rw [List.cons_append, scanExponent, if_pos hletter, scanSign_append more htail]
        dsimp only
        rw [scanDigits_append more hne]
        exact if_neg hdigits
    · next hletter =>
      obtain ⟨rfl, rfl⟩ := Prod.mk.inj (Option.some.inj h)
      rw [List.cons_append, scanExponent, if_neg hletter]
  · obtain ⟨rfl, rfl⟩ := Prod.mk.inj (Option.some.inj h)
    exact absurd rfl hne

theorem scanNumber_append {negative : Bool} {n : Numeral}
    (h : scanNumber negative cs = some (n, rest)) (hne : rest ≠ []) :
    scanNumber negative (cs ++ more) = some (n, rest ++ more) := by
  unfold scanNumber at h
  dsimp only at h
  split at h
  · cases h
  · next hdigits =>
    split at h
    · cases h
    · next fraction behind hfraction =>
      split at h
      · cases h
      · next exponent last hexponent =>
        obtain ⟨rfl, rfl⟩ := Prod.mk.inj (Option.some.inj h)
        -- What is left behind a part is left behind the parts before it.
        have hbehind : behind ≠ [] := by
          rintro rfl
          exact hne (List.length_eq_zero_iff.mp
            (Nat.le_zero.mp (scanExponent_length_le hexponent)))
        have hwhole : (scanDigits [] cs).2 ≠ [] := by
          intro hnil
          rw [hnil] at hfraction
          exact hbehind (List.length_eq_zero_iff.mp
            (Nat.le_zero.mp (scanFraction_length_le hfraction)))
        rw [scanNumber, scanDigits_append more hwhole]
        dsimp only
        rw [if_neg hdigits, scanFraction_append more hfraction hbehind]
        dsimp only
        rw [scanExponent_append more hexponent hne]

theorem afterWord_append {word : List Char} (h : afterWord word cs = some rest) :
    afterWord word (cs ++ more) = some (rest ++ more) := by
  unfold afterWord at h
  split at h
  · next hword =>
    obtain ⟨tail, rfl⟩ := List.isPrefixOf_iff_prefix.mp hword
    obtain rfl := Option.some.inj h
    rw [afterWord, List.append_assoc, if_pos (List.isPrefixOf_iff_prefix.mpr ⟨_, rfl⟩),
      List.drop_left, List.drop_left]
  · cases h

/-- A number ends only where something else follows; every other token ends by itself. -/
theorem scan_append {c : Char} {token : Token} (h : scan c cs = some (token, rest))
    (hend : rest ≠ [] ∨ ∀ value, token ≠ .scalar value) :
    scan c (cs ++ more) = some (token, rest ++ more) := by
  have hnumber {negative : Bool} {digits : List Char}
      (h : (scanNumber negative digits).map (fun read => (Token.scalar (.number read.1), read.2)) =
        some (token, rest)) :
      (scanNumber negative (digits ++ more)).map (fun read => (Token.scalar (.number read.1), read.2)) =
        some (token, rest ++ more) := by
    obtain ⟨⟨n, tail⟩, hscan, heq⟩ := Option.map_eq_some_iff.mp h
    obtain ⟨rfl, rfl⟩ := Prod.mk.inj heq
    have hne := hend.resolve_right fun hnot => hnot _ rfl
    rw [scanNumber_append more hscan hne]
    rfl
  have hword {word : List Char} {value : Json}
      (h : (afterWord word cs).map (fun rest => (Token.scalar value, rest)) = some (token, rest)) :
      (afterWord word (cs ++ more)).map (fun rest => (Token.scalar value, rest)) =
        some (token, rest ++ more) := by
    obtain ⟨tail, hafter, heq⟩ := Option.map_eq_some_iff.mp h
    obtain ⟨rfl, rfl⟩ := Prod.mk.inj heq
    rw [afterWord_append more hafter]
    rfl
  unfold scan at h
  split at h
  case h_7 =>
    obtain ⟨⟨s, tail⟩, hscan, heq⟩ := Option.map_eq_some_iff.mp h
    obtain ⟨rfl, rfl⟩ := Prod.mk.inj heq
    rw [scan, scanString_append more hscan]
    rfl
  case h_8 | h_9 | h_10 => exact hword h
  case h_11 => exact hnumber h
  case h_12 =>
    rw [scan]
    · exact hnumber h
    all_goals assumption
  all_goals
    obtain ⟨rfl, rfl⟩ := Prod.mk.inj (Option.some.inj h)
    rfl

/-- A text whose last token is no scalar is read to the same tokens when more follows. -/
theorem scanAll_append {reversed tokens : List Token} (h : scanAll reversed cs = some tokens)
    (hlast : ∀ value, tokens.getLast? ≠ some (.scalar value)) :
    scanAll reversed (cs ++ more) = scanAll tokens.reverse more := by
  fun_induction scanAll reversed cs with
  | case1 reversed =>
    rw [← Option.some.inj h, List.reverse_reverse]
    rfl
  | case2 reversed c tail hblank ih =>
    rw [List.cons_append, scanAll, if_pos hblank]
    exact ih h
  | case3 reversed c tail hblank token behind hscan ih =>
    -- Only the last token can have nothing behind it.
    have hend : behind ≠ [] ∨ ∀ value, token ≠ .scalar value := by
      by_cases hnil : behind = []
      · rw [hnil, scanAll] at h
        rw [← Option.some.inj h, List.getLast?_reverse] at hlast
        exact .inr fun value heq => hlast value (congrArg some heq)
      · exact .inl hnil
    rw [List.cons_append,
      scans_token (Bool.eq_false_iff.mpr hblank) (scan_append more hscan hend) reversed]
    exact ih h
  | case4 => cases h

end More

/-- Anything but blanks adds a token. -/
theorem scanAll_extends {reversed tokens : List Token} {cs : List Char}
    (h : scanAll reversed cs = some tokens) : ∃ others, tokens = reversed.reverse ++ others ∧
      ((∃ c ∈ cs, isBlank c = false) → others ≠ []) := by
  fun_induction scanAll reversed cs with
  | case1 reversed =>
    refine ⟨[], ?_, ?_⟩
    · rw [List.append_nil]
      exact (Option.some.inj h).symm
    · rintro ⟨c, hc, -⟩
      cases hc
  | case2 reversed c tail hblank ih =>
    obtain ⟨others, htokens, hmore⟩ := ih h
    refine ⟨others, htokens, ?_⟩
    rintro ⟨d, hd, hplain⟩
    rcases List.mem_cons.mp hd with rfl | hd
    · cases hplain.symm.trans hblank
    · exact hmore ⟨d, hd, hplain⟩
  | case3 reversed c tail hblank token behind hscan ih =>
    obtain ⟨others, htokens, -⟩ := ih h
    refine ⟨token :: others, ?_, fun _ => List.cons_ne_nil _ _⟩
    rw [htokens, List.reverse_cons, List.append_assoc]
    rfl
  | case4 => cases h

end Token

/-- Arrays and objects, which end with a token of their own. -/
def IsContainer : Json → Prop
  | .array _ | .object _ => True
  | _ => False

namespace Token

theorem scan_scalar {c : Char} {cs rest : List Char} {value : Json}
    (h : scan c cs = some (.scalar value, rest)) : ¬ IsContainer value := by
  unfold scan at h
  split at h
  case h_7 =>
    obtain ⟨s, -, heq⟩ := Option.map_eq_some_iff.mp h
    cases heq
  case h_8 | h_9 | h_10 | h_11 | h_12 =>
    obtain ⟨s, -, heq⟩ := Option.map_eq_some_iff.mp h
    rw [← Token.scalar.inj (Prod.mk.inj heq).1]
    exact id
  all_goals cases h

theorem scalar_of_scanAll {reversed tokens : List Token} {cs : List Char}
    (h : scanAll reversed cs = some tokens)
    (hreversed : ∀ value, .scalar value ∈ reversed → ¬ IsContainer value) (value : Json)
    (hmem : .scalar value ∈ tokens) : ¬ IsContainer value := by
  fun_induction scanAll reversed cs with
  | case1 reversed =>
    rw [← Option.some.inj h, List.mem_reverse] at hmem
    exact hreversed value hmem
  | case2 reversed c tail hblank ih => exact ih h hreversed
  | case3 reversed c tail hblank token behind hscan ih =>
    refine ih h fun other hother => ?_
    rcases List.mem_cons.mp hother with rfl | hother
    · exact scan_scalar hscan
    · exact hreversed other hother
  | case4 => cases h

end Token

namespace Machine

variable {machine after : Machine} {value : Json}

/-- Behind a complete value no token can stand. -/
theorem step_of_complete (h : machine.expected = .nothing value) (token : Token) :
    machine.step token = none := by
  unfold step
  rw [h]

/-- If a scalar completes a value, it is that value. -/
theorem step_scalar {scalar : Json} (h : machine.step (.scalar scalar) = some after)
    (hcomplete : after.expected = .nothing value) : value = scalar := by
  have hstart {frames : List Frame} (hstart : startValue frames (.scalar scalar) = some after) :
      value = scalar := by
    rw [← Option.some.inj hstart] at hcomplete
    unfold complete at hcomplete
    split at hcomplete
    · exact (Expected.nothing.inj hcomplete).symm
    · cases hcomplete
    · cases hcomplete
  unfold step at h
  split at h
  case h_1 | h_3 => exact hstart h
  all_goals contradiction

end Machine

/-- No text gives an array or an object both with and without something behind it. -/
theorem parse?_append_eq_none {text more : List Char} {value : Json} (h : parse? text = some value)
    (hvalue : value.IsContainer) (hmore : ∃ c ∈ more, isBlank c = false) :
    parse? (text ++ more) = none := by
  obtain ⟨tokens, htokens, hrun⟩ := Option.bind_eq_some_iff.mp h
  obtain ⟨machine, hmachine, hresult⟩ := Option.bind_eq_some_iff.mp hrun
  have hcomplete : machine.expected = .nothing value := by
    unfold Machine.result? at hresult
    split at hresult
    · next hexpected => rw [hexpected, Option.some.inj hresult]
    · cases hresult
  -- The last token is one of the value's own, so it is read the same way when more follows.
  have hlast : ∀ scalar, tokens.getLast? ≠ some (.scalar scalar) := by
    intro scalar hscalar
    obtain ⟨before, rfl⟩ := List.getLast?_eq_some_iff.mp hscalar
    rw [Machine.run_append] at hmachine
    obtain ⟨earlier, -, hstep⟩ := Option.bind_eq_some_iff.mp hmachine
    rw [Machine.run_cons] at hstep
    obtain ⟨after, hlaststep, hafter⟩ := Option.bind_eq_some_iff.mp hstep
    obtain rfl := Option.some.inj hafter
    obtain rfl := Machine.step_scalar hlaststep hcomplete
    exact scalar_of_scanAll htokens (fun _ hmem => absurd hmem List.not_mem_nil) value
      (List.mem_append_right before (List.mem_singleton.mpr rfl)) hvalue
  have hall := scanAll_append more htokens hlast
  rw [parse?, hall]
  cases hmost : scanAll tokens.reverse more with
  | none => rfl
  | some all =>
    obtain ⟨others, rfl, hothers⟩ := scanAll_extends hmost
    obtain ⟨token, others, rfl⟩ := List.exists_cons_of_ne_nil (hothers hmore)
    rw [Option.bind_eq_bind, Option.bind_some, List.reverse_reverse, Machine.run_append, hmachine,
      Option.bind_some, Machine.run_cons, Machine.step_of_complete hcomplete]
    rfl

end RunLog.Json
