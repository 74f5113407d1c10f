import RunLog.Text.Utf8
import RunLog.Url.Host

namespace RunLog

namespace Text

/-- A byte within its bounds is taken into the number. -/
theorem follow_cons {least greatest value : Nat} {b : UInt8} (hleast : least ≤ b.toNat)
    (hgreatest : b.toNat ≤ greatest) (bounds : List Bounds) (rest : List UInt8) :
    follow value ((least, greatest) :: bounds) (b :: rest) =
      follow (value * 64 + b.toNat % 64) bounds rest := by
  rw [follow, if_pos (by simp [hleast, hgreatest])]

theorem decodeChars_cons {b : UInt8} {value : Nat} {bounds : List Bounds} {bytes rest : List UInt8}
    {c : Char} (hlead : lead? b.toNat = some (value, bounds))
    (hfollow : follow value bounds bytes = (some c.toNat, rest)) :
    decodeChars (b :: bytes) = c :: decodeChars rest := by
  rw [decodeChars, hlead]
  simp only [hfollow, Option.elim_some, Char.ofNat_toNat]

/-- The bound is a numeral, as linear arithmetic needs it. -/
theorem toNat_byte {n : Nat} (h : n < 256) : (UInt8.ofNat n).toNat = n :=
  UInt8.toNat_ofNat_of_lt' h

section Encoded

variable {c : Char} (rest : List UInt8)

theorem decodeChars_encoded_one (h : c.toNat ≤ 127) :
    decodeChars (UInt8.ofNat c.toNat :: rest) = c :: decodeChars rest := by
  have hlead : lead? (UInt8.ofNat c.toNat).toNat = some (c.toNat, []) := by
    rw [toNat_byte (by omega), lead?, if_pos (by omega)]
  exact decodeChars_cons hlead rfl

theorem decodeChars_encoded_two (hlow : 127 < c.toNat) (hhigh : c.toNat ≤ 2047) :
    decodeChars (UInt8.ofNat (c.toNat / 64 % 32 + 192) :: UInt8.ofNat (c.toNat % 64 + 128) :: rest) =
      c :: decodeChars rest := by
  have hlast := toNat_byte (n := c.toNat % 64 + 128) (by omega)
  have hlead : lead? (UInt8.ofNat (c.toNat / 64 % 32 + 192)).toNat =
      some (c.toNat / 64, [continuation]) := by
    rw [toNat_byte (by omega), lead?, if_neg (by omega), if_neg (by omega), if_pos (by omega),
      show c.toNat / 64 % 32 + 192 - 0xC0 = c.toNat / 64 by omega]
  refine decodeChars_cons hlead ?_
  rw [continuation, follow_cons (by omega) (by omega), hlast, follow]
  congr 2
  omega

/-- The bounds on the second of three bytes keep out what two bytes could say, and the surrogates. -/
theorem lead?_of_three (hlow : 2047 < c.toNat) (hhigh : c.toNat ≤ 65535) :
    ∃ least greatest, lead? (UInt8.ofNat (c.toNat / 4096 % 16 + 224)).toNat =
        some (c.toNat / 4096, [(least, greatest), continuation]) ∧
      least ≤ c.toNat / 64 % 64 + 128 ∧ c.toNat / 64 % 64 + 128 ≤ greatest := by
  have hvalid : c.toNat < 0xD800 ∨ 0xDFFF < c.toNat := by
    rcases c.valid with h | ⟨h, -⟩
    · exact .inl h
    · exact .inr h
  rw [toNat_byte (by omega), lead?, if_neg (by omega), if_neg (by omega), if_neg (by omega)]
  by_cases hfirst : c.toNat / 4096 % 16 + 224 = 0xE0
  · rw [if_pos hfirst]
    exact ⟨_, _, by rw [show c.toNat / 4096 = 0 by omega], by omega, by omega⟩
  rw [if_neg hfirst]
  by_cases hsurrogate : c.toNat / 4096 % 16 + 224 = 0xED
  · rw [if_pos hsurrogate]
    exact ⟨_, _, by rw [show c.toNat / 4096 = 13 by omega], by omega, by omega⟩
  rw [if_neg hsurrogate, if_pos (by omega)]
  rw [show c.toNat / 4096 % 16 + 224 - 0xE0 = c.toNat / 4096 by omega]
  exact ⟨0x80, 0xBF, rfl, by omega, by omega⟩

theorem decodeChars_encoded_three (hlow : 2047 < c.toNat) (hhigh : c.toNat ≤ 65535) :
    decodeChars (UInt8.ofNat (c.toNat / 4096 % 16 + 224) :: UInt8.ofNat (c.toNat / 64 % 64 + 128) ::
      UInt8.ofNat (c.toNat % 64 + 128) :: rest) = c :: decodeChars rest := by
  have hsecond := toNat_byte (n := c.toNat / 64 % 64 + 128) (by omega)
  have hlast := toNat_byte (n := c.toNat % 64 + 128) (by omega)
  obtain ⟨least, greatest, hlead, hleast, hgreatest⟩ := lead?_of_three hlow hhigh
  refine decodeChars_cons hlead ?_
  rw [follow_cons (by omega) (by omega), hsecond, continuation, follow_cons (by omega) (by omega),
    hlast, follow]
  congr 2
  omega

/-- The bounds on the second of four bytes keep out what three bytes could say, and what is no code
point. -/
theorem lead?_of_four (hlow : 65535 < c.toNat) :
    ∃ least greatest, lead? (UInt8.ofNat (c.toNat / 262144 % 8 + 240)).toNat =
        some (c.toNat / 262144, [(least, greatest), continuation, continuation]) ∧
      least ≤ c.toNat / 4096 % 64 + 128 ∧ c.toNat / 4096 % 64 + 128 ≤ greatest := by
  have hvalid : c.toNat < 0x110000 := by
    rcases c.valid with h | ⟨-, h⟩
    · exact Nat.lt_trans h (by decide)
    · exact h
  rw [toNat_byte (by omega), lead?, if_neg (by omega), if_neg (by omega), if_neg (by omega),
    if_neg (by omega), if_neg (by omega), if_neg (by omega)]
  by_cases hfirst : c.toNat / 262144 % 8 + 240 = 0xF0
  · rw [if_pos hfirst]
    exact ⟨_, _, by rw [show c.toNat / 262144 = 0 by omega], by omega, by omega⟩
  rw [if_neg hfirst]
  by_cases hbetween : c.toNat / 262144 % 8 + 240 < 0xF4
  · rw [if_pos hbetween]
    rw [show c.toNat / 262144 % 8 + 240 - 0xF0 = c.toNat / 262144 by omega]
    exact ⟨0x80, 0xBF, rfl, by omega, by omega⟩
  rw [if_neg hbetween, if_pos (by omega)]
  exact ⟨_, _, by rw [show c.toNat / 262144 = 4 by omega], by omega, by omega⟩

theorem decodeChars_encoded_four (hlow : 65535 < c.toNat) :
    decodeChars (UInt8.ofNat (c.toNat / 262144 % 8 + 240) ::
      UInt8.ofNat (c.toNat / 4096 % 64 + 128) :: UInt8.ofNat (c.toNat / 64 % 64 + 128) ::
      UInt8.ofNat (c.toNat % 64 + 128) :: rest) = c :: decodeChars rest := by
  have hsecond := toNat_byte (n := c.toNat / 4096 % 64 + 128) (by omega)
  have hthird := toNat_byte (n := c.toNat / 64 % 64 + 128) (by omega)
  have hlast := toNat_byte (n := c.toNat % 64 + 128) (by omega)
  obtain ⟨least, greatest, hlead, hleast, hgreatest⟩ := lead?_of_four hlow
  refine decodeChars_cons hlead ?_
  rw [follow_cons (by omega) (by omega), hsecond, continuation, follow_cons (by omega) (by omega),
    hthird, follow_cons (by omega) (by omega), hlast, follow]
  congr 2
  omega

/-- The bytes of a character are read back as that character. -/
theorem decodeChars_utf8EncodeChar (c : Char) (rest : List UInt8) :
    decodeChars (String.utf8EncodeChar c ++ rest) = c :: decodeChars rest := by
  -- One case for each number of bytes that a character can have.
  change decodeChars ((if c.toNat ≤ 127 then _ else if c.toNat ≤ 2047 then _
    else if c.toNat ≤ 65535 then _ else _) ++ rest) = _
  split
  · next h => exact decodeChars_encoded_one rest h
  · next hone =>
    split
    · next h => exact decodeChars_encoded_two rest (by omega) h
    · next htwo =>
      split
      · next h => exact decodeChars_encoded_three rest (by omega) h
      · next hthree => exact decodeChars_encoded_four rest (by omega)

end Encoded

theorem decodeChars_flatMap_append (cs : List Char) (rest : List UInt8) :
    decodeChars (cs.flatMap String.utf8EncodeChar ++ rest) = cs ++ decodeChars rest := by
  induction cs with
  | nil => rfl
  | cons c cs ih =>
    rw [List.flatMap_cons, List.append_assoc, decodeChars_utf8EncodeChar, ih]
    rfl

theorem decodeChars_flatMap (cs : List Char) :
    decodeChars (cs.flatMap String.utf8EncodeChar) = cs := by
  have hnil : decodeChars [] = [] := by rw [decodeChars]
  rw [← List.append_nil (cs.flatMap _), decodeChars_flatMap_append, hnil, List.append_nil]

theorem encode_eq (text : String) : encode text = text.toList.flatMap String.utf8EncodeChar := by
  change text.toByteArray.data.toList = _
  rw [← String.utf8Encode_toList, List.utf8Encode, List.data_toByteArray]

theorem decodeLossy_encode (text : String) : decodeLossy (encode text) = text := by
  rw [decodeLossy, encode_eq, decodeChars_flatMap, String.ofList_toList]

/-- If the bytes of one text begin those of another, so do its characters. -/
theorem exists_toList_of_encode {part text : String} {rest : List UInt8}
    (h : encode part ++ rest = encode text) (hne : rest ≠ []) :
    ∃ others, text.toList = part.toList ++ others ∧ others ≠ [] := by
  have hchars : text.toList = part.toList ++ decodeChars rest := by
    rw [← decodeChars_flatMap text.toList, ← encode_eq, ← h, encode_eq, decodeChars_flatMap_append]
  refine ⟨decodeChars rest, hchars, fun hnil => hne ?_⟩
  -- The same characters have the same bytes.
  rw [hnil, List.append_nil] at hchars
  rw [encode_eq, encode_eq, hchars] at h
  exact List.append_right_eq_self.mp h

end Text

namespace Url

/-- A plus sign stands for a space. -/
def unplus (c : Char) : Char := if c = '+' then ' ' else c

/-- The bytes of a part of a form, once plus signs are spaces. -/
def formBytes (part : List Char) : List UInt8 := (part.map unplus).flatMap String.utf8EncodeChar

/-- The text that a part of a form stands for. -/
def formText (part : List Char) : String := Text.decodeLossy (percentDecode (formBytes part))

/-- A name and a value, with an equals sign between them. -/
def formDecodePair (part : List Char) : String × String :=
  (formText (part.takeWhile (· ≠ '=')), formText ((part.dropWhile (· ≠ '=')).drop 1))

/-- The parameters that a query holds in form encoding; nothing between two separators is none. -/
def formDecode (query : List Char) : List (String × String) :=
  ((splitOn '&' query).filter fun part => !part.isEmpty).map formDecodePair

theorem formBytes_append (a b : List Char) : formBytes (a ++ b) = formBytes a ++ formBytes b := by
  rw [formBytes, List.map_append, List.flatMap_append]
  rfl

theorem percentDecode_cons {b : UInt8} (hb : b ≠ 37) (rest : List UInt8) :
    percentDecode (b :: rest) = b :: percentDecode rest := by
  rw [percentDecode]
  intro x y more heq
  exact absurd heq hb

/-- A digit is one byte, which stands for the same number. -/
theorem hexCapital_read : ∀ n < 16,
    formBytes [Text.hexCapital n] = [UInt8.ofNat (Text.hexCapital n).toNat] ∧
      Text.hexDigit? (Char.ofNat (UInt8.ofNat (Text.hexCapital n).toNat).toNat) = some n := by
  decide

theorem percentDecode_percentByte (b : UInt8) (rest : List UInt8) :
    percentDecode (formBytes (percentByte b) ++ rest) = b :: percentDecode rest := by
  have hlt := b.toNat_lt
  obtain ⟨hhigh, hreadHigh⟩ := hexCapital_read (b.toNat / 16) (by omega)
  obtain ⟨hlow, hreadLow⟩ := hexCapital_read (b.toNat % 16) (by omega)
  have hbytes : formBytes (percentByte b) = 37 :: (formBytes [Text.hexCapital (b.toNat / 16)] ++
      formBytes [Text.hexCapital (b.toNat % 16)]) := by
    rw [← formBytes_append]
    rfl
  rw [hbytes, hhigh, hlow]
  change percentDecode (37 :: _ :: _ :: rest) = _
  rw [percentDecode, hreadHigh, hreadLow]
  change UInt8.ofNat (16 * (b.toNat / 16) + b.toNat % 16) :: _ = _
  rw [Nat.div_add_mod, UInt8.ofNat_toNat]

theorem percentDecode_percentBytes (bytes rest : List UInt8) :
    percentDecode (formBytes (bytes.flatMap percentByte) ++ rest) = bytes ++ percentDecode rest := by
  induction bytes with
  | nil => rfl
  | cons b bytes ih =>
    rw [List.flatMap_cons, formBytes_append, List.append_assoc, percentDecode_percentByte, ih]
    rfl

theorem toNat_lt_of_formPlain {c : Char} (h : formPlain c = true) : c.toNat < 128 := by
  have hle {d : Char} (hcd : c ≤ d) (hd : d.toNat < 128) : c.toNat < 128 :=
    Nat.lt_of_le_of_lt (UInt32.le_iff_toNat_le.mp hcd) hd
  simp only [formPlain, Bool.or_eq_true, Bool.and_eq_true, decide_eq_true_eq] at h
  rcases h with (((((⟨-, h⟩ | ⟨-, h⟩) | ⟨-, h⟩) | rfl) | rfl) | rfl) | rfl
  · exact hle h (by decide)
  · exact hle h (by decide)
  · exact hle h (by decide)
  all_goals decide

/-- What stands for itself is one byte, which is no percent sign. -/
theorem formBytes_plain {c : Char} (h : formPlain c = true) :
    formBytes [c] = [UInt8.ofNat c.toNat] ∧ String.utf8EncodeChar c = [UInt8.ofNat c.toNat] ∧
      UInt8.ofNat c.toNat ≠ 37 := by
  have hlt := toNat_lt_of_formPlain h
  have hutf8 : String.utf8EncodeChar c = [UInt8.ofNat c.toNat] := by
    change (if c.toNat ≤ 127 then _ else _) = _
    rw [if_pos (by omega)]
    rfl
  have hplus : unplus c = c := by
    rw [unplus, if_neg]
    rintro rfl
    exact absurd h (by decide)
  refine ⟨?_, hutf8, fun hpercent => ?_⟩
  · change String.utf8EncodeChar (unplus c) ++ [] = _
    rw [hplus, hutf8]
    rfl
  · have hnat := congrArg UInt8.toNat hpercent
    rw [Text.toNat_byte (by omega)] at hnat
    obtain rfl : c = '%' := Char.toNat_inj.mp hnat
    exact absurd h (by decide)

/-- A character is read back as its bytes. -/
theorem percentDecode_formChar (c : Char) (rest : List UInt8) :
    percentDecode (formBytes (formChar c) ++ rest) =
      String.utf8EncodeChar c ++ percentDecode rest := by
  unfold formChar
  split
  · next hplain =>
    obtain ⟨hbytes, hutf8, hne⟩ := formBytes_plain hplain
    rw [hbytes, hutf8]
    exact percentDecode_cons hne rest
  · split
    · next hspace =>
      rw [hspace]
      exact percentDecode_cons (by decide) rest
    · exact percentDecode_percentBytes _ rest

theorem percentDecode_formEncode (cs : List Char) :
    percentDecode (formBytes (cs.flatMap formChar)) = cs.flatMap String.utf8EncodeChar := by
  induction cs with
  | nil => rfl
  | cons c cs ih =>
    rw [List.flatMap_cons, formBytes_append, percentDecode_formChar, ih, List.flatMap_cons]

/-- A text in form encoding stands for that text. -/
theorem formText_formEncode (s : String) : formText (formEncode s) = s := by
  rw [formText, formEncode, percentDecode_formEncode, Text.decodeLossy, Text.decodeChars_flatMap,
    String.ofList_toList]

/-- Is this one of the characters at which a form is split? -/
def formSplits (c : Char) : Bool := c = '&' || c = '='

theorem formSplits_hexCapital : ∀ n < 16, formSplits (Text.hexCapital n) = false := by decide

theorem formSplits_percentByte (b : UInt8) : ∀ d ∈ percentByte b, formSplits d = false := by
  have hlt := b.toNat_lt
  intro d hd
  simp only [percentByte, List.mem_cons, List.not_mem_nil, or_false] at hd
  rcases hd with rfl | rfl | rfl
  · rfl
  · exact formSplits_hexCapital _ (by omega)
  · exact formSplits_hexCapital _ (by omega)

theorem formSplits_formChar (c : Char) : ∀ d ∈ formChar c, formSplits d = false := by
  intro d hd
  unfold formChar at hd
  split at hd
  · next hplain =>
    obtain rfl := List.mem_singleton.mp hd
    rw [formSplits, Bool.or_eq_false_iff, decide_eq_false_iff_not, decide_eq_false_iff_not]
    refine ⟨?_, ?_⟩
    · rintro rfl
      exact absurd hplain (by decide)
    · rintro rfl
      exact absurd hplain (by decide)
  · split at hd
    · obtain rfl := List.mem_singleton.mp hd
      rfl
    · obtain ⟨b, -, hd⟩ := List.mem_flatMap.mp hd
      exact formSplits_percentByte b d hd

/-- Form encoding leaves none of them in a text. -/
theorem formSplits_formEncode (s : String) : ∀ d ∈ formEncode s, formSplits d = false := by
  intro d hd
  obtain ⟨c, -, hd⟩ := List.mem_flatMap.mp hd
  exact formSplits_formChar c d hd

theorem formDecodePair_formPair (pair : String × String) : formDecodePair (formPair pair) = pair := by
  have hname : ∀ c ∈ formEncode pair.1, decide (c ≠ '=') = true := by
    intro c hc
    have hne := formSplits_formEncode pair.1 c hc
    rw [formSplits, Bool.or_eq_false_iff, decide_eq_false_iff_not, decide_eq_false_iff_not] at hne
    exact decide_eq_true hne.2
  rw [formDecodePair, formPair, List.takeWhile_append_of_pos hname, List.dropWhile_append_of_pos hname]
  rw [List.takeWhile_cons_of_neg (by simp), List.dropWhile_cons_of_neg (by simp), List.append_nil,
    List.drop_one, List.tail_cons, formText_formEncode, formText_formEncode]

theorem splitOn_of_not_mem {separator : Char} {text : List Char} (h : separator ∉ text) :
    splitOn separator text = [text] := by
  induction text with
  | nil => rfl
  | cons c text ih =>
    rw [List.mem_cons, not_or] at h
    obtain ⟨hc, htext⟩ := h
    rw [splitOn, if_neg (Ne.symm hc), ih htext]

theorem splitOn_append {separator : Char} {part : List Char} (h : separator ∉ part)
    (rest : List Char) :
    splitOn separator (part ++ separator :: rest) = part :: splitOn separator rest := by
  induction part with
  | nil => rw [List.nil_append, splitOn, if_pos rfl]
  | cons c part ih =>
    rw [List.mem_cons, not_or] at h
    obtain ⟨hc, hpart⟩ := h
    rw [List.cons_append, splitOn, if_neg (Ne.symm hc), ih hpart]

theorem not_mem_formPair (pair : String × String) : '&' ∉ formPair pair := by
  have hnone (s : String) : '&' ∉ formEncode s := fun h =>
    absurd (formSplits_formEncode s '&' h) (by decide)
  simp [formPair, hnone]

theorem formPair_ne_nil (pair : String × String) : formPair pair ≠ [] := by simp [formPair]

theorem appendPairs_of_ne_nil {query : List Char} (h : query ≠ []) (pairs : List (String × String)) :
    appendPairs query pairs = query ++ pairs.flatMap fun pair => '&' :: formPair pair := by
  -- Each pair makes the query longer, so the induction is over all of them.
  induction pairs generalizing query with
  | nil => exact (List.append_nil query).symm
  | cons pair pairs ih =>
    have hstep : appendPairs query (pair :: pairs) =
        appendPairs ((query ++ ['&']) ++ formPair pair) pairs := by
      change appendPairs ((if query.isEmpty then [] else query ++ ['&']) ++ formPair pair) pairs = _
      rw [if_neg (by simpa using h)]
    rw [hstep, ih (by simp), List.flatMap_cons, List.append_assoc, List.append_assoc]
    rfl

theorem splitOn_pairs (pair : String × String) (pairs : List (String × String)) :
    splitOn '&' (formPair pair ++ pairs.flatMap fun pair => '&' :: formPair pair) =
      (pair :: pairs).map formPair := by
  induction pairs generalizing pair with
  | nil =>
    rw [List.flatMap_nil, List.append_nil]
    exact splitOn_of_not_mem (not_mem_formPair pair)
  | cons next pairs ih =>
    rw [List.flatMap_cons, List.cons_append, splitOn_append (not_mem_formPair pair), ih]
    rfl

/-- Parameters that are put into an empty query come out of it as they are. -/
theorem formDecode_appendPairs (pairs : List (String × String)) :
    formDecode (appendPairs [] pairs) = pairs := by
  cases pairs with
  | nil => rfl
  | cons pair pairs =>
    have hfirst : appendPairs [] (pair :: pairs) = appendPairs (formPair pair) pairs := rfl
    have hfull : ∀ part ∈ (pair :: pairs).map formPair, (!part.isEmpty) = true := by
      intro part hpart
      obtain ⟨p, -, rfl⟩ := List.mem_map.mp hpart
      simpa using formPair_ne_nil p
    have hid : formDecodePair ∘ formPair = id := funext formDecodePair_formPair
    rw [formDecode, hfirst, appendPairs_of_ne_nil (formPair_ne_nil pair), splitOn_pairs,
      List.filter_eq_self.mpr hfull, List.map_map, hid, List.map_id]

end Url

end RunLog
