import RunLog.Json.Reader
import RunLog.Json.Writer

/-! Reading back what was written as JSON. A value that is `Written` holds no numbers but naturals, no
halves of characters and no keys that need escapes. The scanner takes its text, laid out in one line or
in many, to its tokens, and the machine takes these to the value. -/

namespace RunLog.Json

open Token

/-! ### Tokens of a value -/

/-- The characters of a name stand for themselves inside quotes. -/
def IsBare (s : String) : Prop := (s.toList.all fun c => escapeChar c = [c]) = true

instance (s : String) : Decidable (IsBare s) := inferInstanceAs (Decidable (_ = true))

/-- A value that is read back as it was written. -/
inductive Written : Json → Prop where
  | null : Written .null
  | bool (value : Bool) : Written (.bool value)
  | nat (n : Nat) : Written (.nat n)
  | text (s : String) : Written (.text s)
  | array (items : List Json) (h : ∀ item ∈ items, Written item) : Written (.array items)
  | fields (entries : List (String × Json)) (hkeys : ∀ e ∈ entries, IsBare e.1)
    (h : ∀ e ∈ entries, Written e.2) : Written (fields entries)

def keyOf (s : String) : Key := ⟨some s, s.toList.all fun c => escapeChar c = [c]⟩

theorem keyOf_of_isBare {s : String} (h : IsBare s) : keyOf s = ⟨some s, true⟩ :=
  congrArg (Key.mk (some s)) h

/-- Groups of tokens with a comma between each and the next. -/
def separated : List (List Token) → List Token
  | [] => []
  | [group] => group
  | group :: rest => group ++ .comma :: separated rest

mutual

def tokens : Json → List Token
  | string s => [.string (keyOf (s.getD ""))]
  | array items => .openArray :: separated (tokensOfItems items) ++ [.closeArray]
  | object fields => .openObject :: separated (tokensOfFields fields) ++ [.closeObject]
  | value => [.scalar value]

def tokensOfItems : List Json → List (List Token)
  | [] => []
  | item :: rest => tokens item :: tokensOfItems rest

def tokensOfFields : List (Key × Json) → List (List Token)
  | [] => []
  | (key, value) :: rest =>
    (.string (keyOf (key.text.getD "")) :: .colon :: tokens value) :: tokensOfFields rest

end

def tokensOfField (e : String × Json) : List Token := .string (keyOf e.1) :: .colon :: tokens e.2

theorem tokens_array (items : List Json) :
    tokens (.array items) = .openArray :: separated (items.map tokens) ++ [.closeArray] := by
  have hitems : tokensOfItems items = items.map tokens := by
    induction items with
    | nil => rfl
    | cons item rest ih => rw [tokensOfItems, ih, List.map_cons]
  rw [tokens, hitems]

theorem tokens_fields (entries : List (String × Json)) :
    tokens (fields entries) =
      .openObject :: separated (entries.map tokensOfField) ++ [.closeObject] := by
  have hfields : tokensOfFields (entries.map fun e => (⟨some e.1, true⟩, e.2)) =
      entries.map tokensOfField := by
    induction entries with
    | nil => rfl
    | cons e rest ih =>
      rw [List.map_cons, tokensOfFields, ih, List.map_cons]
      rfl
  rw [fields, tokens, hfields]

/-! ### From tokens to the value -/

namespace Machine

theorem run_append (machine : Machine) (before behind : List Token) :
    machine.run (before ++ behind) = (machine.run before).bind fun m => m.run behind :=
  List.foldlM_append

theorem run_cons (machine : Machine) (token : Token) (rest : List Token) :
    machine.run (token :: rest) = (machine.step token).bind fun m => m.run rest := rfl

/-- The tokens complete the value, whether or not an array might end before it. -/
def Completes (group : List Token) (value : Json) : Prop :=
  ∀ frames expected, expected = .value ∨ expected = .valueOrClose →
    run ⟨frames, expected⟩ group = some (complete frames value)

theorem step_of_startValue {frames : List Frame} {expected : Expected} {token : Token}
    {machine : Machine} (hexpected : expected = .value ∨ expected = .valueOrClose)
    (h : startValue frames token = some machine) : step ⟨frames, expected⟩ token = some machine := by
  rcases hexpected with rfl | rfl
  · exact h
  · unfold step
    split
    -- No value starts with the end of an array.
    all_goals simp_all [startValue]

theorem completes_of_startValue {token : Token} {value : Json}
    (h : ∀ frames, startValue frames token = some (complete frames value)) :
    Completes [token] value := by
  intro frames expected hexpected
  rw [run_cons, step_of_startValue hexpected (h frames)]
  rfl

/-- Further items of an array, up to its end. -/
theorem run_items {items : List Json} (h : ∀ item ∈ items, Completes (tokens item) item)
    (hne : items ≠ []) (frames : List Frame) (reversed : List Json) (expected : Expected)
    (hexpected : expected = .value ∨ expected = .valueOrClose) :
    run ⟨.inArray reversed :: frames, expected⟩ (separated (items.map tokens) ++ [.closeArray]) =
      some (complete frames (.array (reversed.reverse ++ items))) := by
  induction items generalizing reversed expected with
  | nil => exact absurd rfl hne
  | cons item rest ih =>
    have hitem := h item List.mem_cons_self (.inArray reversed :: frames) expected hexpected
    have hreverse : (item :: reversed).reverse ++ rest = reversed.reverse ++ item :: rest := by
      rw [List.reverse_cons, List.append_assoc]
      rfl
    cases rest with
    | nil =>
      rw [List.map_singleton, separated, run_append, hitem, Option.bind_some, ← hreverse,
        List.append_nil]
      rfl
    | cons next rest =>
      have hrest := ih (fun item hitem => h item (List.mem_cons_of_mem _ hitem)) nofun
        (item :: reversed) .value (.inl rfl)
      rw [List.map_cons, List.map_cons, separated, ← List.map_cons, List.append_assoc, run_append,
        hitem, Option.bind_some, ← hreverse, ← hrest]
      · rfl
      · nofun

theorem completes_array {items : List Json} (h : ∀ item ∈ items, Completes (tokens item) item) :
    Completes (tokens (.array items)) (.array items) := by
  intro frames expected hexpected
  rw [tokens_array, List.cons_append, run_cons, step_of_startValue hexpected rfl, Option.bind_some]
  cases items with
  | nil => rfl
  | cons item rest =>
    rw [run_items h nofun frames [] .valueOrClose (.inr rfl)]
    rfl

/-- Further fields of an object, up to its end. -/
theorem run_fields {entries : List (String × Json)} (hkeys : ∀ e ∈ entries, IsBare e.1)
    (h : ∀ e ∈ entries, Completes (tokens e.2) e.2) (hne : entries ≠ []) (frames : List Frame)
    (reversed : List (Key × Json)) (expected : Expected)
    (hexpected : expected = .key reversed ∨ expected = .keyOrClose ∧ reversed = []) :
    run ⟨frames, expected⟩ (separated (entries.map tokensOfField) ++ [.closeObject]) =
      some (complete frames
        (.object (reversed.reverse ++ entries.map fun e => (⟨some e.1, true⟩, e.2)))) := by
  induction entries generalizing reversed expected with
  | nil => exact absurd rfl hne
  | cons e rest ih =>
    obtain ⟨key, value⟩ := e
    have hkey := keyOf_of_isBare (hkeys (key, value) List.mem_cons_self)
    have hvalue := h (key, value) List.mem_cons_self (.inObject reversed ⟨some key, true⟩ :: frames)
      .value (.inl rfl)
    have hfield : run ⟨frames, expected⟩ (tokensOfField (key, value)) = some
        ⟨.inObject ((⟨some key, true⟩, value) :: reversed) ⟨some key, true⟩ :: frames,
          .commaOrClose⟩ := by
      have hstart : step ⟨frames, expected⟩ (.string (keyOf key)) =
          some ⟨frames, .colon reversed ⟨some key, true⟩⟩ := by
        rw [hkey]
        rcases hexpected with rfl | ⟨rfl, rfl⟩ <;> rfl
      rw [tokensOfField, run_cons, hstart, Option.bind_some, run_cons]
      exact hvalue
    have hreverse : ((⟨some key, true⟩, value) :: reversed).reverse ++
        rest.map (fun e => (⟨some e.1, true⟩, e.2)) =
        reversed.reverse ++ ((key, value) :: rest).map fun e => ((⟨some e.1, true⟩ : Key), e.2) := by
      rw [List.reverse_cons, List.append_assoc]
      rfl
    cases rest with
    | nil =>
      rw [List.map_singleton, separated, run_append, hfield, Option.bind_some, ← hreverse,
        List.map_nil, List.append_nil]
      rfl
    | cons next rest =>
      have hrest := ih (fun e he => hkeys e (List.mem_cons_of_mem _ he))
        (fun e he => h e (List.mem_cons_of_mem _ he)) nofun
        ((⟨some key, true⟩, value) :: reversed) (.key _) (.inl rfl)
      rw [List.map_cons, List.map_cons, separated, ← List.map_cons, List.append_assoc, run_append,
        hfield, Option.bind_some, ← hreverse, ← hrest]
      · rfl
      · nofun

theorem completes_fields {entries : List (String × Json)} (hkeys : ∀ e ∈ entries, IsBare e.1)
    (h : ∀ e ∈ entries, Completes (tokens e.2) e.2) :
    Completes (tokens (fields entries)) (fields entries) := by
  intro frames expected hexpected
  rw [tokens_fields, List.cons_append, run_cons, step_of_startValue hexpected rfl, Option.bind_some]
  cases entries with
  | nil => rfl
  | cons e rest =>
    rw [run_fields hkeys h nofun frames [] .keyOrClose (.inr ⟨rfl, rfl⟩)]
    rfl

end Machine

theorem Written.completes {value : Json} (h : Written value) :
    Machine.Completes (tokens value) value := by
  induction h with
  | null => exact Machine.completes_of_startValue fun _ => rfl
  | bool value => exact Machine.completes_of_startValue fun _ => rfl
  | nat n => exact Machine.completes_of_startValue fun _ => rfl
  | text s => exact Machine.completes_of_startValue fun _ => rfl
  | array items _ ih => exact Machine.completes_array ih
  | fields entries hkeys _ ih => exact Machine.completes_fields hkeys ih

/-! ### From text to tokens -/

/-- Reading some text gives some tokens and goes on with the rest. -/
def Scans (text : List Char) (group : List Token) (rest : List Char) : Prop :=
  ∀ reversed, scanAll reversed text = scanAll (group.reverse ++ reversed) rest

theorem Scans.trans {text middle rest : List Char} {before behind : List Token}
    (h : Scans text before middle) (h' : Scans middle behind rest) :
    Scans text (before ++ behind) rest := by
  intro reversed
  rw [h, h', List.reverse_append, List.append_assoc]

theorem scans_token {c : Char} {text rest : List Char} {token : Token} (hblank : isBlank c = false)
    (h : scan c text = some (token, rest)) : Scans (c :: text) [token] rest := by
  intro reversed
  rw [scanAll, if_neg (by simp [hblank])]
  split
  · next token' rest' h' =>
    obtain ⟨rfl, rfl⟩ := Prod.mk.inj (Option.some.inj (h.symm.trans h'))
    rfl
  · next h' => exact absurd (h.symm.trans h') (Option.some_ne_none _)

theorem scans_blanks {blanks : List Char} (h : ∀ c ∈ blanks, isBlank c = true) (rest : List Char) :
    Scans (blanks ++ rest) [] rest := by
  intro reversed
  induction blanks with
  | nil => rfl
  | cons c blanks ih =>
    rw [List.cons_append, scanAll, if_pos (h c List.mem_cons_self)]
    exact ih fun c hc => h c (List.mem_cons_of_mem _ hc)

theorem isBlank_of_mem_lineBreak (depth : Nat) : ∀ c ∈ lineBreak depth, isBlank c = true := by
  intro c hc
  rcases List.mem_cons.mp hc with rfl | hc
  · rfl
  · rw [(List.mem_replicate.mp hc).2]
    rfl

theorem scans_lineBreak (depth : Nat) (rest : List Char) : Scans (lineBreak depth ++ rest) [] rest :=
  scans_blanks (isBlank_of_mem_lineBreak depth) rest

/-! #### Strings -/

theorem hexFrom?_control : ∀ n < 32,
    Text.hexFrom? 0 ['0', '0', Text.hexChar (n / 16), Text.hexChar (n % 16)] = some n := by
  decide

/-- A character inside quotes is escaped by a letter or by its number, or stands for itself. -/
theorem escapeChar_cases (c : Char) :
    (∃ letter, escapeChar c = ['\\', letter] ∧ escaped? letter = some c ∧ letter ≠ 'u') ∨
    (c.toNat < 32 ∧ escapeChar c = ['\\', 'u', '0', '0', Text.hexChar (c.toNat / 16),
      Text.hexChar (c.toNat % 16)]) ∨
    (¬ c.toNat < 32 ∧ c ≠ '"' ∧ c ≠ '\\' ∧ escapeChar c = [c]) := by
  unfold escapeChar
  split
  case h_8 hquote hslash _ _ _ _ _ =>
    split
    · next hcontrol => exact .inr (.inl ⟨hcontrol, rfl⟩)
    · next hvisible => exact .inr (.inr ⟨hvisible, hquote, hslash, rfl⟩)
  all_goals exact .inl ⟨_, rfl, rfl, by decide⟩

theorem scanString_letter {letter c : Char} (h : escaped? letter = some c) (hu : letter ≠ 'u')
    (part : StringPart) (rest : List Char) :
    scanString part ('\\' :: letter :: rest) =
      scanString { part.push c with escaped := true } rest := by
  rw [scanString]
  · rw [h]
  · intro a b c d rest' heq
    exact fun _ => hu heq

theorem scanString_escapeChar (reversed : List Char) (escaped : Bool) (c : Char) (rest : List Char) :
    scanString { reversed, escaped } (escapeChar c ++ rest) =
      scanString { reversed := c :: reversed, escaped := escaped || !decide (escapeChar c = [c]) }
        rest := by
  rcases escapeChar_cases c with ⟨letter, heq, hletter, hu⟩ | ⟨hcontrol, heq⟩ | ⟨hvisible, hquote, hslash, heq⟩
  · have hescaped : ¬ ['\\', letter] = [c] := nofun
    rw [heq, decide_eq_false hescaped, Bool.not_false, Bool.or_true]
    exact scanString_letter hletter hu _ rest
  · have hescaped : ¬ ['\\', 'u', '0', '0', Text.hexChar (c.toNat / 16),
      Text.hexChar (c.toNat % 16)] = [c] := nofun
    -- A control character is no half of a pair, so its number stands for it alone.
    have hunit : ¬ 0xD800 ≤ c.toNat := by omega
    have hpush : StringPart.pushUnit { reversed, escaped } c.toNat =
        { reversed := c :: reversed, escaped } := by
      rw [StringPart.pushUnit, if_neg (fun h => hunit (by omega)), if_neg (fun h => hunit h.1),
        Char.ofNat_toNat]
      rfl
    rw [heq, decide_eq_false hescaped, Bool.not_false, Bool.or_true]
    simp only [List.cons_append, List.nil_append, scanString, hexFrom?_control c.toNat hcontrol, hpush]
  · rw [heq, decide_eq_true rfl, Bool.not_true, Bool.or_false, List.singleton_append]
    have hplain : ¬ ((decide (c.toNat < 0x20) || decide (c = '\\')) = true) := by
      simp [hvisible, hslash]
    rw [scanString, if_neg hplain]
    · rfl
    · exact hquote
    · exact fun _ _ _ _ _ heq => absurd heq hslash
    · exact fun _ _ heq => absurd heq hslash

theorem scanString_escaped (cs reversed : List Char) (escaped : Bool) (rest : List Char) :
    scanString { reversed, escaped } (cs.flatMap escapeChar ++ '"' :: rest) =
      some (⟨some (String.ofList (reversed.reverse ++ cs)),
        !escaped && cs.all fun c => escapeChar c = [c]⟩, rest) := by
  induction cs generalizing reversed escaped with
  | nil =>
    rw [List.flatMap_nil, List.nil_append, scanString, List.append_nil, List.all_nil, Bool.and_true]
    rfl
  | cons c cs ih =>
    rw [List.flatMap_cons, List.append_assoc, scanString_escapeChar, ih, List.reverse_cons,
      List.append_assoc, List.singleton_append, List.all_cons, Bool.not_or, Bool.not_not,
      Bool.and_assoc]

theorem scans_quoted (s : String) (rest : List Char) :
    Scans (quoted s ++ rest) [.string (keyOf s)] rest := by
  have hstring := scanString_escaped s.toList [] false rest
  rw [List.reverse_nil, List.nil_append, String.ofList_toList] at hstring
  have htext : quoted s ++ rest = '"' :: (s.toList.flatMap escapeChar ++ '"' :: rest) := by
    simp [quoted]
  rw [htext]
  apply scans_token rfl
  rw [scan, hstring]
  rfl

/-! #### Numbers -/

/-- Behind a number there is nothing that could belong to it. -/
def Delimits : List Char → Prop
  | [] => True
  | c :: _ => Text.digit? c = none ∧ c ≠ '.' ∧ c ≠ 'e' ∧ c ≠ 'E'

theorem delimits_mark {c : Char} (h : c ∈ [',', ']', '\x7d', '\n']) (text : List Char) :
    Delimits (c :: text) := by
  simp only [List.mem_cons, List.not_mem_nil, or_false] at h
  rcases h with rfl | rfl | rfl | rfl <;> exact ⟨rfl, by decide, by decide, by decide⟩

theorem digit?_digitChar : ∀ d < 10, Text.digit? d.digitChar = some d := by
  decide

theorem ofDigits_concat (digits : List Nat) (d : Nat) :
    ofDigits (digits ++ [d]) = ofDigits digits * 10 + d := by
  rw [ofDigits, List.foldl_append]
  rfl

/-- What holds of each digit, and of a number with one more digit if it holds of the number, holds of
every number and its digits. -/
theorem decimal_induction {motive : Nat → List Char → Prop}
    (single : ∀ d < 10, motive d [d.digitChar])
    (concat : ∀ n d, 0 < n → d < 10 → motive n (decimal n) →
      motive (n * 10 + d) (decimal n ++ [d.digitChar])) (n : Nat) : motive n (decimal n) := by
  induction n using Nat.strongRecOn with
  | ind n ih =>
    by_cases hn : n < 10
    · rw [decimal, Nat.toDigits_of_lt_base hn]
      exact single n hn
    · have hten : 10 ≤ n := Nat.le_of_not_lt hn
      have hlast := concat (n / 10) (n % 10) (by omega) (by omega) (ih (n / 10) (by omega))
      rw [Nat.div_add_mod'] at hlast
      rw [decimal, Nat.toDigits_of_base_le (by omega) hten]
      exact hlast

theorem toList_toString (n : Nat) : (toString n).toList = decimal n := by
  rw [Nat.toString_eq_repr, Nat.toList_repr, decimal]

theorem scanDigits_digitChar {d : Nat} (hd : d < 10) (reversed : List Nat) (rest : List Char) :
    scanDigits reversed (d.digitChar :: rest) = scanDigits (d :: reversed) rest := by
  rw [scanDigits, digit?_digitChar d hd]

/-- The digits of a number, of which the first is zero only for zero itself. -/
theorem scanDigits_decimal (n : Nat) :
    ∃ digits, digits ≠ [] ∧ ofDigits digits = n ∧ (digits.head? = some 0 → digits = [0]) ∧
      ∀ reversed rest, scanDigits reversed (decimal n ++ rest) =
        scanDigits (digits.reverse ++ reversed) rest := by
  refine decimal_induction (motive := fun n text => ∃ digits, digits ≠ [] ∧ ofDigits digits = n ∧
    (digits.head? = some 0 → digits = [0]) ∧ ∀ reversed rest,
      scanDigits reversed (text ++ rest) = scanDigits (digits.reverse ++ reversed) rest) ?_ ?_ n
  · intro d hd
    refine ⟨[d], nofun, Nat.zero_add d, ?_, ?_⟩
    · intro hhead
      rw [Option.some.inj hhead]
    · intro reversed rest
      exact scanDigits_digitChar hd reversed rest
  · rintro n d hn hd ⟨digits, hne, hvalue, hhead, hscan⟩
    refine ⟨digits ++ [d], List.concat_ne_nil _ _, ?_, ?_, ?_⟩
    · rw [ofDigits_concat, hvalue]
    · intro hzero
      -- A leading zero would make the number before the last digit zero.
      obtain ⟨first, others, rfl⟩ := List.exists_cons_of_ne_nil hne
      rw [hhead hzero] at hvalue
      exact absurd hvalue.symm (Nat.ne_of_gt hn)
    · intro reversed rest
      rw [List.append_assoc, List.singleton_append, hscan, scanDigits_digitChar hd,
        List.reverse_append]
      rfl

theorem scanDigits_of_delimits (reversed : List Nat) {rest : List Char} (h : Delimits rest) :
    scanDigits reversed rest = (reversed.reverse, rest) := by
  cases rest with
  | nil => rfl
  | cons c rest => rw [scanDigits, h.1]

theorem scanNumber_decimal (n : Nat) {rest : List Char} (h : Delimits rest) :
    scanNumber false (decimal n ++ rest) = some (.ofNat n, rest) := by
  obtain ⟨digits, hne, hvalue, hhead, hscan⟩ := scanDigits_decimal n
  have hdigits : scanDigits [] (decimal n ++ rest) = (digits, rest) := by
    rw [hscan, List.append_nil, scanDigits_of_delimits _ h, List.reverse_reverse]
  have hfraction : scanFraction rest = some ([], rest) := by
    cases rest with
    | nil => rfl
    | cons c rest =>
      rw [scanFraction]
      exact fun _ heq => absurd (List.cons.inj heq).1 h.2.1
  have hexponent : scanExponent rest = some (none, rest) := by
    cases rest with
    | nil => rfl
    | cons c rest =>
      rw [scanExponent, if_neg]
      simp [h.2.2.1, h.2.2.2]
  have hallowed : ¬ (digits.isEmpty || (digits.head? = some 0 && digits.length ≠ 1)) = true := by
    intro hrefused
    rcases Bool.or_eq_true_iff.mp hrefused with hempty | hzero
    · exact hne (List.isEmpty_iff.mp hempty)
    · obtain ⟨hfirst, hlength⟩ := Bool.and_eq_true_iff.mp hzero
      rw [hhead (of_decide_eq_true hfirst)] at hlength
      exact Bool.false_ne_true hlength
  rw [scanNumber, hdigits]
  simp only [hfraction, hexponent, hvalue]
  rw [if_neg hallowed]
  rfl

theorem decimal_starts (n : Nat) : ∃ d < 10, ∃ text, decimal n = Nat.digitChar d :: text := by
  refine decimal_induction (motive := fun _ text => ∃ d < 10, ∃ others, text = d.digitChar :: others)
    ?_ ?_ n
  · exact fun d hd => ⟨d, hd, [], rfl⟩
  · rintro n last - - ⟨d, hd, others, htext⟩
    exact ⟨d, hd, others ++ [last.digitChar], congrArg (· ++ [last.digitChar]) htext⟩

theorem scan_digitChar {d : Nat} (hd : d < 10) (text : List Char) :
    isBlank d.digitChar = false ∧ scan d.digitChar text =
      (scanNumber false (d.digitChar :: text)).map fun (n, rest) => (.scalar (.number n), rest) := by
  obtain rfl | rfl | rfl | rfl | rfl | rfl | rfl | rfl | rfl | rfl :
      d = 0 ∨ d = 1 ∨ d = 2 ∨ d = 3 ∨ d = 4 ∨ d = 5 ∨ d = 6 ∨ d = 7 ∨ d = 8 ∨ d = 9 := by
    omega
  all_goals exact ⟨rfl, rfl⟩

theorem scans_decimal (n : Nat) {rest : List Char} (h : Delimits rest) :
    Scans (decimal n ++ rest) [.scalar (.nat n)] rest := by
  have hnumber := scanNumber_decimal n h
  obtain ⟨d, hd, text, htext⟩ := decimal_starts n
  rw [htext, List.cons_append] at hnumber ⊢
  obtain ⟨hblank, hscan⟩ := scan_digitChar hd (text ++ rest)
  apply scans_token hblank
  rw [hscan, hnumber]
  rfl

/-! #### Values -/

variable {α : Type} {text : α → List Char} {group : α → List Token}

/-- Pieces with commas between them are read one after another. -/
theorem scans_joined {xs : List α} {rest : List Char} (hrest : Delimits rest)
    (h : ∀ x ∈ xs, ∀ rest, Delimits rest → Scans (text x ++ rest) (group x) rest) :
    Scans (joined (xs.map text) ++ rest) (separated (xs.map group)) rest := by
  induction xs with
  | nil => exact fun _ => rfl
  | cons x xs ih =>
    have hothers := ih fun x hx => h x (List.mem_cons_of_mem _ hx)
    cases xs with
    | nil => exact h x List.mem_cons_self rest hrest
    | cons next xs =>
      have hcomma : Delimits (',' :: (joined ((next :: xs).map text) ++ rest)) :=
        delimits_mark (by decide) _
      have hfirst := h x List.mem_cons_self _ hcomma
      have hmark : Scans (',' :: (joined ((next :: xs).map text) ++ rest)) [.comma]
          (joined ((next :: xs).map text) ++ rest) := scans_token rfl rfl
      have hall := hfirst.trans (hmark.trans hothers)
      rw [List.map_cons, List.map_cons, joined, ← List.map_cons, List.append_assoc]
      · exact hall
      · nofun

theorem scans_field (key : String) {blanks valueText rest : List Char} {value : Json}
    (hblanks : ∀ c ∈ blanks, isBlank c = true) (h : Scans (valueText ++ rest) (tokens value) rest) :
    Scans (quoted key ++ ':' :: (blanks ++ valueText) ++ rest) (tokensOfField (key, value)) rest := by
  have hkey := scans_quoted key (':' :: (blanks ++ (valueText ++ rest)))
  have hcolon : Scans (':' :: (blanks ++ (valueText ++ rest))) [.colon] (blanks ++ (valueText ++ rest)) :=
    scans_token rfl rfl
  have hall := hkey.trans (hcolon.trans ((scans_blanks hblanks _).trans h))
  rw [List.append_assoc, List.cons_append, List.append_assoc]
  exact hall

/-- A character that is a token by itself. -/
def IsMark (c : Char) (token : Token) : Prop :=
  isBlank c = false ∧ ∀ text, scan c text = some (token, text)

theorem isMark_openArray : IsMark '[' .openArray := ⟨rfl, fun _ => rfl⟩

theorem isMark_closeArray : IsMark ']' .closeArray := ⟨rfl, fun _ => rfl⟩

theorem isMark_openObject : IsMark '\x7b' .openObject := ⟨rfl, fun _ => rfl⟩

theorem isMark_closeObject : IsMark '\x7d' .closeObject := ⟨rfl, fun _ => rfl⟩

section Brackets

variable {opening closing : Char} {first last : Token} {α : Type} {text : α → List Char}
  {group : α → List Token} {xs : List α}

/-- What stands between two brackets, with blanks before the closing one or without. -/
theorem scans_enclosed (hopening : IsMark opening first) (hclosing : IsMark closing last)
    {inside blanks rest : List Char} {inner : List Token} (hblanks : ∀ c ∈ blanks, isBlank c = true)
    (h : Scans (inside ++ (blanks ++ closing :: rest)) inner (blanks ++ closing :: rest)) :
    Scans (opening :: inside ++ blanks ++ [closing] ++ rest) (first :: inner ++ [last]) rest := by
  have hopen : Scans (opening :: (inside ++ (blanks ++ closing :: rest))) [first]
      (inside ++ (blanks ++ closing :: rest)) := scans_token hopening.1 (hopening.2 _)
  have hclose : Scans (closing :: rest) [last] rest := scans_token hclosing.1 (hclosing.2 _)
  have hall := hopen.trans (h.trans ((scans_blanks hblanks _).trans hclose))
  rw [List.append_assoc, List.append_assoc]
  exact hall

theorem scans_line (hopening : IsMark opening first) (hclosing : IsMark closing last)
    (hdelimits : ∀ rest, Delimits (closing :: rest))
    (h : ∀ x ∈ xs, ∀ rest, Delimits rest → Scans (text x ++ rest) (group x) rest)
    (rest : List Char) : Scans (opening :: joined (xs.map text) ++ [closing] ++ rest)
      (first :: separated (xs.map group) ++ [last]) rest := by
  have hall := scans_enclosed hopening hclosing (List.forall_mem_nil _) (scans_joined (hdelimits rest) h)
  rw [List.append_nil] at hall
  exact hall

theorem scans_block (hopening : IsMark opening first) (hclosing : IsMark closing last) (depth : Nat)
    (h : ∀ x ∈ xs, ∀ rest, Delimits rest → Scans (text x ++ rest) (group x) rest)
    (rest : List Char) : Scans (block opening closing depth (xs.map text) ++ rest)
      (first :: separated (xs.map group) ++ [last]) rest := by
  cases xs with
  | nil =>
    have hnone : Scans ([] ++ ([] ++ closing :: rest)) [] ([] ++ closing :: rest) := fun _ => rfl
    exact scans_enclosed hopening hclosing (List.forall_mem_nil _) hnone
  | cons x xs =>
    have hitem : ∀ y ∈ x :: xs, ∀ rest, Delimits rest →
        Scans (lineBreak (depth + 1) ++ text y ++ rest) (group y) rest := by
      intro y hy rest hrest
      rw [List.append_assoc]
      exact (scans_lineBreak (depth + 1) _).trans (h y hy rest hrest)
    have hdelimits : Delimits (lineBreak depth ++ closing :: rest) := delimits_mark (by decide) _
    have hall := scans_enclosed hopening hclosing (isBlank_of_mem_lineBreak depth)
      (scans_joined hdelimits hitem)
    have htext : block opening closing depth ((x :: xs).map text) =
        opening :: joined ((x :: xs).map fun y => lineBreak (depth + 1) ++ text y) ++
          lineBreak depth ++ [closing] := by
      rw [block, List.map_map]
      · rfl
      · nofun
    rw [htext]
    exact hall

end Brackets

theorem compact_array (items : List Json) :
    compact (.array items) = '[' :: joined (items.map compact) ++ [']'] := by
  have hitems : compactItems items = items.map compact := by
    induction items with
    | nil => rfl
    | cons item rest ih => rw [compactItems, ih, List.map_cons]
  rw [compact, hitems]

theorem compact_fields (entries : List (String × Json)) :
    compact (fields entries) =
      '\x7b' :: joined (entries.map fun e => quoted e.1 ++ ':' :: compact e.2) ++ ['\x7d'] := by
  have hfields : compactFields (entries.map fun e => (⟨some e.1, true⟩, e.2)) =
      entries.map fun e => quoted e.1 ++ ':' :: compact e.2 := by
    induction entries with
    | nil => rfl
    | cons e rest ih =>
      rw [List.map_cons, compactFields, ih, List.map_cons]
      rfl
  rw [fields, compact, hfields]

theorem pretty_array (depth : Nat) (items : List Json) :
    pretty depth (.array items) = block '[' ']' depth (items.map (pretty (depth + 1))) := by
  have hitems : prettyItems (depth + 1) items = items.map (pretty (depth + 1)) := by
    induction items with
    | nil => rfl
    | cons item rest ih => rw [prettyItems, ih, List.map_cons]
  rw [pretty, hitems]

theorem pretty_fields (depth : Nat) (entries : List (String × Json)) :
    pretty depth (fields entries) = block '\x7b' '\x7d' depth
      (entries.map fun e => quoted e.1 ++ ':' :: ' ' :: pretty (depth + 1) e.2) := by
  have hfields : prettyFields (depth + 1) (entries.map fun e => (⟨some e.1, true⟩, e.2)) =
      entries.map fun e => quoted e.1 ++ ':' :: ' ' :: pretty (depth + 1) e.2 := by
    induction entries with
    | nil => rfl
    | cons e rest ih =>
      rw [List.map_cons, prettyFields, ih, List.map_cons]
      rfl
  rw [fields, pretty, hfields]

theorem compact_nat (n : Nat) : compact (.nat n) = decimal n := by
  simp [nat, compact, numeralText, Numeral.ofNat]

/-- The text of a value in one line is read to its tokens. -/
theorem Written.scans_compact {value : Json} (h : Written value) :
    ∀ rest, Delimits rest → Scans (compact value ++ rest) (tokens value) rest := by
  induction h with
  | null => exact fun rest _ => scans_token rfl rfl
  | bool value =>
    intro rest _
    cases value <;> exact scans_token rfl rfl
  | nat n =>
    intro rest hrest
    rw [compact_nat]
    exact scans_decimal n hrest
  | text s => exact fun rest _ => scans_quoted s rest
  | array items _ ih =>
    intro rest _
    rw [compact_array, tokens_array]
    exact scans_line isMark_openArray isMark_closeArray (delimits_mark (by decide)) ih rest
  | fields entries _ _ ih =>
    intro rest _
    have hfield : ∀ e ∈ entries, ∀ rest, Delimits rest →
        Scans ((quoted e.1 ++ ':' :: compact e.2) ++ rest) (tokensOfField e) rest := by
      intro e he rest hrest
      exact scans_field e.1 (List.forall_mem_nil _) (ih e he rest hrest)
    rw [compact_fields, tokens_fields]
    exact scans_line isMark_openObject isMark_closeObject (delimits_mark (by decide)) hfield rest

/-- The text of a value with items on lines of their own is read to the same tokens. -/
theorem Written.scans_pretty {value : Json} (h : Written value) :
    ∀ depth rest, Delimits rest → Scans (pretty depth value ++ rest) (tokens value) rest := by
  induction h with
  | null => exact fun _ => Written.null.scans_compact
  | bool value => exact fun _ => (Written.bool value).scans_compact
  | nat n => exact fun _ => (Written.nat n).scans_compact
  | text s => exact fun _ => (Written.text s).scans_compact
  | array items _ ih =>
    intro depth rest _
    rw [pretty_array, tokens_array]
    exact scans_block isMark_openArray isMark_closeArray depth
      (fun item hitem => ih item hitem (depth + 1)) rest
  | fields entries _ _ ih =>
    intro depth rest _
    have hfield : ∀ e ∈ entries, ∀ rest, Delimits rest →
        Scans ((quoted e.1 ++ ':' :: ' ' :: pretty (depth + 1) e.2) ++ rest) (tokensOfField e)
          rest := by
      intro e he rest hrest
      have hblank : ∀ c ∈ [' '], isBlank c = true := List.forall_mem_singleton.mpr rfl
      exact scans_field e.1 hblank (ih e he (depth + 1) rest hrest)
    rw [pretty_fields, tokens_fields]
    exact scans_block isMark_openObject isMark_closeObject depth hfield rest

/-! ### Reading back -/

theorem Written.parse?_eq {value : Json} (h : Written value) {text : List Char}
    (hscans : Scans (text ++ []) (tokens value) []) : parse? text = some value := by
  have htokens : scanAll [] text = some (tokens value) := by
    have hall := hscans []
    rw [List.append_nil, List.append_nil, scanAll, List.reverse_reverse] at hall
    exact hall
  rw [parse?, htokens, Option.bind_eq_bind, Option.bind_some, Machine.initial,
    h.completes [] .value (.inl rfl)]
  rfl

theorem Written.parse?_compact {value : Json} (h : Written value) :
    parse? (compact value) = some value :=
  h.parse?_eq (h.scans_compact [] trivial)

theorem Written.parse?_pretty {value : Json} (h : Written value) :
    parse? (pretty 0 value) = some value :=
  h.parse?_eq (h.scans_pretty 0 [] trivial)

end RunLog.Json
