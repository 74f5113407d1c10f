import Mathlib.Data.List.TakeWhile
import RunLog.Loki.Request
import RunLog.Proofs.Forms

namespace RunLog

namespace Url

section Characters

/-- The characters that a parser takes off the ends of a text. -/
def atEnd (c : Char) : Bool := c.toNat ≤ 0x20

/-- The characters that stay, wherever they stand. -/
def stays (c : Char) : Bool := c ≠ '\t' && c ≠ '\n' && c ≠ '\r'

theorem stays_of_not_atEnd {c : Char} (h : atEnd c = false) : stays c = true := by
  have hlt : 0x20 < c.toNat := by simpa [atEnd] using h
  have hne (d : Char) (hd : d.toNat ≤ 0x20) : c ≠ d := by
    rintro rfl
    omega
  simp [stays, hne '\t' (by decide), hne '\n' (by decide), hne '\r' (by decide)]

theorem cleaned_eq (text : List Char) :
    cleaned text = (((text.dropWhile atEnd).reverse.dropWhile atEnd).reverse).filter stays := rfl

theorem dropWhile_append_of_ne_nil {p : Char → Bool} {text : List Char}
    (h : text.dropWhile p ≠ []) (more : List Char) :
    (text ++ more).dropWhile p = text.dropWhile p ++ more := by
  rw [List.dropWhile_append, if_neg (by simpa using h)]

theorem dropWhile_concat {p : Char → Bool} {c : Char} (h : p c = false) (text : List Char) :
    (text ++ [c]).dropWhile p = text.dropWhile p ++ [c] := by
  rw [List.dropWhile_append]
  split
  · next hnil =>
    rw [List.isEmpty_iff.mp hnil, List.dropWhile_cons_of_neg (by simp [h])]
    rfl
  · rfl

/-- Where the last character stays, only the begin of a text is trimmed. -/
theorem cleaned_concat {c : Char} (h : atEnd c = false) (text : List Char) :
    cleaned (text ++ [c]) = (text.dropWhile atEnd).filter stays ++ [c] := by
  rw [cleaned_eq, dropWhile_concat h, List.reverse_append, List.reverse_singleton,
    List.singleton_append, List.dropWhile_cons_of_neg (by simp [h]), List.reverse_cons,
    List.reverse_reverse, List.filter_append, List.filter_cons_of_pos (stays_of_not_atEnd h),
    List.filter_nil]

theorem atEnd_of_not_stays {c : Char} (h : stays c = false) : atEnd c = true := by
  cases hc : atEnd c with
  | true => rfl
  | false =>
    rw [stays_of_not_atEnd hc] at h
    cases h

/-- Where the last character that stays is not one to be trimmed, only the begin of a text is. -/
theorem cleaned_of_last {c : Char} (hc : atEnd c = false) {text : List Char}
    (hlast : (text.filter stays).getLast? = some c) :
    text.dropWhile atEnd ≠ [] ∧ cleaned text = (text.dropWhile atEnd).filter stays ∧
      (cleaned text).getLast? = some c := by
  obtain ⟨kept, hkept⟩ := List.getLast?_eq_some_iff.mp hlast
  obtain ⟨before, behind, rfl, -, hbehind⟩ := List.filter_eq_append_iff.mp hkept
  obtain ⟨gap, tail, rfl, -, -, htail⟩ := List.filter_eq_cons_iff.mp hbehind
  -- What follows the character is dropped, from the end or from anywhere.
  have hdropped : ∀ d ∈ tail, stays d = false := by
    intro d hd
    simpa using List.filter_eq_nil_iff.mp htail d hd
  have hall : ∀ d ∈ tail.reverse, atEnd d = true := fun d hd =>
    atEnd_of_not_stays (hdropped d (List.mem_reverse.mp hd))
  have hdrop : (before ++ (gap ++ c :: tail)).dropWhile atEnd =
      (before ++ gap).dropWhile atEnd ++ [c] ++ tail := by
    have hjoin : before ++ (gap ++ c :: tail) = ((before ++ gap) ++ [c]) ++ tail := by simp
    have hne : ((before ++ gap) ++ [c]).dropWhile atEnd ≠ [] := by
      rw [dropWhile_concat hc]
      simp
    rw [hjoin, dropWhile_append_of_ne_nil hne, dropWhile_concat hc]
  have htrimmed : cleaned (before ++ (gap ++ c :: tail)) =
      ((before ++ gap).dropWhile atEnd).filter stays ++ [c] := by
    rw [cleaned_eq, hdrop, List.reverse_append, List.dropWhile_append_of_pos hall,
      List.reverse_append, List.reverse_singleton, List.singleton_append,
      List.dropWhile_cons_of_neg (by simp [hc]), List.reverse_cons, List.reverse_reverse,
      List.filter_append, List.filter_cons_of_pos (stays_of_not_atEnd hc), List.filter_nil]
  refine ⟨by simp [hdrop], ?_, by rw [htrimmed, List.getLast?_concat]⟩
  rw [htrimmed, hdrop, List.filter_append, List.filter_append, htail, List.append_nil,
    List.filter_cons_of_pos (stays_of_not_atEnd hc), List.filter_nil]

/-- What is put behind such a text stands behind it once both are cleaned. -/
theorem cleaned_append {c d : Char} (hc : atEnd c = false) (hd : atEnd d = false)
    {text : List Char} (hlast : (text.filter stays).getLast? = some c) {more : List Char}
    (hmore : ∀ x ∈ more, stays x = true) :
    cleaned (text ++ (more ++ [d])) = cleaned text ++ (more ++ [d]) := by
  obtain ⟨hne, hcleaned, -⟩ := cleaned_of_last hc hlast
  rw [← List.append_assoc, cleaned_concat hd, dropWhile_append_of_ne_nil hne, List.filter_append,
    List.filter_eq_self.mpr hmore, hcleaned, List.append_assoc]

theorem mem_of_mem_cleaned {c : Char} {text : List Char} (h : c ∈ cleaned text) :
    c ∈ text.filter stays := by
  obtain ⟨htrimmed, hstays⟩ := List.mem_filter.mp (cleaned_eq text ▸ h)
  have hbegin := (List.dropWhile_sublist _).mem (List.mem_reverse.mp htrimmed)
  exact List.mem_filter.mpr ⟨(List.dropWhile_sublist _).mem (List.mem_reverse.mp hbegin), hstays⟩

end Characters

section Splitting

variable {text rest scheme : List Char}

/-- A scheme is read from the front of a text up to its colon. -/
theorem splitScheme_eq_some_iff : splitScheme text = some (scheme, rest) ↔
    ∃ name, text = name ++ ':' :: rest ∧ (∃ c more, name = c :: more ∧ c.isAlpha = true) ∧
      (∀ c ∈ name, isSchemeChar c = true) ∧ scheme = name.map Char.toLower := by
  have hcolon : isSchemeChar ':' = false := by decide
  constructor
  · intro h
    cases text with
    | nil => cases h
    | cons c text =>
      rw [splitScheme] at h
      split at h
      · next halpha =>
        split at h
        · next more hdrop =>
          cases h
          have hjoin := List.takeWhile_append_dropWhile (p := isSchemeChar) (l := c :: text)
          rw [hdrop] at hjoin
          have hfirst : isSchemeChar c = true := by simp [isSchemeChar, Char.isAlphanum, halpha]
          refine ⟨_, hjoin.symm, ⟨c, text.takeWhile isSchemeChar, ?_, halpha⟩, ?_, rfl⟩
          · rw [List.takeWhile_cons_of_pos hfirst]
          · exact fun d hd => List.mem_takeWhile_imp hd
        · cases h
      · cases h
  · -- No character of the name is a colon, so the first colon is the one behind it.
    rintro ⟨name, rfl, ⟨c, more, rfl, halpha⟩, hname, rfl⟩
    rw [List.cons_append, splitScheme, if_pos halpha, ← List.cons_append,
      List.dropWhile_append_of_pos hname, List.takeWhile_append_of_pos hname,
      List.dropWhile_cons_of_neg (by simp [hcolon]), List.takeWhile_cons_of_neg (by simp [hcolon]),
      List.append_nil]
    rfl

theorem splitScheme_append (h : splitScheme text = some (scheme, rest)) (more : List Char) :
    splitScheme (text ++ more) = some (scheme, rest ++ more) := by
  obtain ⟨name, rfl, hname⟩ := splitScheme_eq_some_iff.mp h
  apply splitScheme_eq_some_iff.mpr
  exact ⟨name, by rw [List.append_assoc, List.cons_append], hname⟩

theorem splitAtFirst_append {test : Char → Bool} {c : Char} (hc : test c = true)
    (text more : List Char) :
    splitAtFirst test (text ++ c :: more) =
      ((splitAtFirst test text).1, (splitAtFirst test text).2 ++ c :: more) := by
  induction text with
  | nil =>
    rw [List.nil_append, splitAtFirst, List.takeWhile_cons_of_neg (by simp [hc]),
      List.dropWhile_cons_of_neg (by simp [hc])]
    rfl
  | cons d text ih =>
    simp only [splitAtFirst, Prod.mk.injEq] at ih ⊢
    cases hd : test d with
    | false => simpa [List.takeWhile_cons, List.dropWhile_cons, hd] using ih
    | true => simp [hd]

theorem head_splitAtFirst {test : Char → Bool} {text : List Char} {d : Char}
    (h : (splitAtFirst test text).2.head? = some d) : test d = true := by
  have hhead := List.head?_dropWhile_not (fun c => !test c) text
  change (text.dropWhile fun c => !test c).head? = some d at h
  rw [h] at hhead
  simpa using hhead

theorem splitAtFirst_of_none {test : Char → Bool} (h : ∀ c ∈ text, test c = false) :
    splitAtFirst test text = (text, []) := by
  have hrest : (splitAtFirst test text).2 = [] :=
    List.dropWhile_eq_nil_iff.mpr fun c hc => by rw [h c hc]; rfl
  have hall : (splitAtFirst test text).1 ++ (splitAtFirst test text).2 = text :=
    List.takeWhile_append_dropWhile
  rw [hrest, List.append_nil] at hall
  exact Prod.ext hall hrest

theorem mem_dropWhile_of_mem {p : Char → Bool} {d : Char} (hd : p d = false) (h : d ∈ text) :
    d ∈ text.dropWhile p := by
  rw [← List.takeWhile_append_dropWhile (p := p) (l := text), List.mem_append] at h
  refine h.resolve_left fun htake => ?_
  rw [List.mem_takeWhile_imp htake] at hd
  cases hd

end Splitting

section Paths

variable {kind : SchemeKind}

theorem splitPath_ne_nil (kind : SchemeKind) (text : List Char) : splitPath kind text ≠ [] := by
  cases text with
  | nil => simp [splitPath]
  | cons c text =>
    rw [splitPath]
    split
    · simp
    · split <;> simp

theorem splitPath_append {c : Char} (hc : isSlash kind c = true) (text more : List Char) :
    splitPath kind (text ++ c :: more) = splitPath kind text ++ splitPath kind more := by
  induction text with
  | nil =>
    rw [List.nil_append, splitPath, splitPath, if_pos hc]
    rfl
  | cons d text ih =>
    rw [List.cons_append, splitPath, splitPath]
    split
    · rw [ih]
      rfl
    · obtain ⟨segment, segments, hsplit⟩ := List.exists_cons_of_ne_nil (splitPath_ne_nil kind text)
      rw [ih, hsplit]
      rfl

/-- A character that is no slash becomes part of the last segment. -/
theorem splitPath_concat {c : Char} (hc : isSlash kind c = false) (text : List Char) :
    ∃ segments segment, splitPath kind (text ++ [c]) = segments ++ [segment ++ [c]] := by
  induction text with
  | nil =>
    refine ⟨[], [], ?_⟩
    rw [List.nil_append, splitPath, hc]
    rfl
  | cons d text ih =>
    obtain ⟨segments, segment, hsplit⟩ := ih
    rw [List.cons_append, splitPath, hsplit]
    split
    · exact ⟨[] :: segments, segment, rfl⟩
    · cases segments with
      | nil => exact ⟨[], d :: segment, rfl⟩
      | cons first segments => exact ⟨(d :: first) :: segments, segment, rfl⟩

theorem addSegments_cons (reversed : List (List Char)) (segment : List Char)
    {others : List (List Char)} (h : others ≠ []) :
    addSegments kind reversed (segment :: others) =
      addSegments kind (addSegment kind reversed false segment) others := by
  cases others with
  | nil => exact absurd rfl h
  | cons next others => rfl

theorem addSegments_append (reversed segments : List (List Char)) {others : List (List Char)}
    (h : others ≠ []) : addSegments kind reversed (segments ++ others) =
      addSegments kind (segments.foldl (addSegment kind · false ·) reversed) others := by
  induction segments generalizing reversed with
  | nil => rfl
  | cons segment segments ih =>
    rw [List.cons_append, addSegments_cons reversed segment (by simp [h]), ih]
    rfl

/-- A segment of dots at the end of a path leaves an empty one, and before other segments none. -/
theorem addSegment_last (reversed : List (List Char)) (segment : List Char) :
    addSegment .special reversed true segment = [] :: addSegment .special reversed false segment ∨
      addSegment .special reversed true segment = segment :: reversed ∧
        addSegment .special reversed false segment = segment :: reversed := by
  unfold addSegment
  split
  · exact .inl rfl
  · split
    · exact .inl rfl
    · exact .inr ⟨rfl, rfl⟩

theorem percentChar_concat {c : Char} (hc : c ≠ '/') :
    ∃ front d, percentChar pathSet c = front ++ [d] ∧ d ≠ '/' := by
  have hdigit : ∀ n < 16, Text.hexCapital n ≠ '/' := by decide
  unfold percentChar
  split
  · obtain ⟨bytes, b, hbytes⟩ : ∃ bytes b, String.utf8EncodeChar c = bytes ++ [b] := by
      have hne : String.utf8EncodeChar c ≠ [] := String.utf8EncodeChar_ne_nil
      exact ⟨_, _, (List.dropLast_concat_getLast hne).symm⟩
    have hlt := b.toNat_lt
    refine ⟨bytes.flatMap percentByte ++ ['%', Text.hexCapital (b.toNat / 16)],
      Text.hexCapital (b.toNat % 16), ?_, hdigit _ (by omega)⟩
    rw [hbytes, List.flatMap_append]
    simp [percentByte]
  · exact ⟨[], c, rfl, hc⟩

end Paths

section Endpoint

open Loki

def endpointSegments : List (List Char) :=
  ["loki".toList, "api".toList, "v1".toList, "query_range".toList]

theorem queryRangePath_eq :
    queryRangePath.toList = '/' :: "loki/api/v1/query_range".toList := by decide

theorem endpoint_segments :
    (splitPath .special "loki/api/v1/query_range".toList).map (percentEncode pathSet) =
      endpointSegments := by decide

theorem addSegments_endpoint (reversed : List (List Char)) :
    addSegments .special reversed endpointSegments = endpointSegments.reverse ++ reversed := by
  rfl

theorem text_endpoint (parts : List (List Char)) :
    (UrlPath.segments (parts ++ endpointSegments)).text =
      (UrlPath.segments parts).text ++ queryRangePath.toList := by
  rw [UrlPath.text, List.flatMap_append]
  rfl

/-- A path without its first slash, and the one with the endpoint behind it. They differ in how the last
segment of the first is added, which is not the last segment of the second. -/
theorem pathOf_lastSegment {text last : List Char} {segments : List (List Char)}
    (hsplit : (splitPath .special text).map (percentEncode pathSet) = segments ++ [last]) :
    ∃ reversed, pathOf .special text =
        .segments (addSegment .special reversed true last).reverse ∧
      pathOf .special (text ++ queryRangePath.toList) =
        .segments ((addSegment .special reversed false last).reverse ++ endpointSegments) := by
  refine ⟨segments.foldl (addSegment .special · false ·) [], ?_, ?_⟩
  · rw [pathOf, hsplit, addSegments_append _ _ (by simp)]
    rfl
  · rw [pathOf, queryRangePath_eq, splitPath_append rfl, List.map_append, endpoint_segments, hsplit,
      List.append_assoc, addSegments_append _ _ (by simp), List.singleton_append,
      addSegments_cons _ _ (by simp [endpointSegments]), addSegments_endpoint, if_neg (by decide),
      List.reverse_append, List.reverse_reverse]

/-- Where the text ends in no slash, a slash with which its path ends nevertheless is lost. -/
theorem pathOf_endpoint {c : Char} (hc : isSlash .special c = false) (text : List Char) :
    ∃ front, (pathOf .special ((text ++ [c]) ++ queryRangePath.toList)).text =
        front ++ queryRangePath.toList ∧
      ((pathOf .special (text ++ [c])).text = front ++ ['/'] ∨
        (pathOf .special (text ++ [c])).text = front ∧ front.getLast? ≠ some '/') := by
  have hne : c ≠ '/' := by
    rintro rfl
    exact absurd hc (by decide)
  -- The last segment ends in the last character, however that is written.
  obtain ⟨segments, segment, hsplit⟩ := splitPath_concat hc text
  obtain ⟨body, last, hlast, hlastNe⟩ := percentChar_concat hne
  have hsegments : (splitPath .special (text ++ [c])).map (percentEncode pathSet) =
      segments.map (percentEncode pathSet) ++ [(percentEncode pathSet segment ++ body) ++ [last]] := by
    rw [hsplit]
    simp [percentEncode, hlast]
  obtain ⟨reversed, hbase, hrequest⟩ := pathOf_lastSegment hsegments
  refine ⟨_, by rw [hrequest, text_endpoint], ?_⟩
  rw [hbase]
  rcases addSegment_last reversed ((percentEncode pathSet segment ++ body) ++ [last]) with
    hdots | ⟨hplain, hsame⟩
  · left
    rw [hdots, List.reverse_cons]
    simp [UrlPath.text]
  · right
    rw [hplain, hsame]
    refine ⟨rfl, ?_⟩
    rw [List.reverse_cons, UrlPath.text, List.flatMap_append, List.flatMap_singleton,
      ← List.cons_append, ← List.append_assoc, List.getLast?_concat]
    exact fun h => hlastNe (Option.some.inj h)

/-- Where the text ends in a slash, the endpoint stands behind that slash. -/
theorem pathOf_endpoint_of_slash {c : Char} (hc : isSlash .special c = true) (text : List Char) :
    (pathOf .special ((text ++ [c]) ++ queryRangePath.toList)).text =
        (pathOf .special (text ++ [c])).text ++ queryRangePath.toList ∧
      (pathOf .special (text ++ [c])).text.getLast? = some '/' := by
  have hsegments : (splitPath .special (text ++ [c])).map (percentEncode pathSet) =
      (splitPath .special text).map (percentEncode pathSet) ++ [[]] := by
    rw [splitPath_append hc text [], List.map_append]
    rfl
  have hempty (reversed : List (List Char)) (isLast : Bool) :
      addSegment .special reversed isLast [] = [] :: reversed := rfl
  obtain ⟨reversed, hbase, hrequest⟩ := pathOf_lastSegment hsegments
  rw [hempty] at hbase hrequest
  refine ⟨by rw [hrequest, text_endpoint, hbase], ?_⟩
  rw [hbase, List.reverse_cons, UrlPath.text, List.flatMap_append, List.flatMap_singleton,
    List.getLast?_concat]

theorem pathAfterAuthority_of_slash {c : Char} (hc : isSlash .special c = true)
    (text : List Char) : pathAfterAuthority .special (c :: text) = pathOf .special text := by
  rw [pathAfterAuthority, if_pos hc]

/-- A path, with the endpoint put behind its text: at most one slash at the end of the path is lost. -/
theorem pathAfterAuthority_endpoint {text : List Char}
    (hbegin : ∀ c, text.head? = some c → isSlash .special c = true)
    (hend : ∀ c, text.getLast? = some c → isSlash .special c = false) :
    ∃ front, (pathAfterAuthority .special (text ++ queryRangePath.toList)).text =
        front ++ queryRangePath.toList ∧
      ((pathAfterAuthority .special text).text = front ++ ['/'] ∨
        (pathAfterAuthority .special text).text = front ∧ front.getLast? ≠ some '/') := by
  cases text with
  | nil => exact ⟨[], by decide, .inl rfl⟩
  | cons d text =>
    have hslash := hbegin d rfl
    rcases List.eq_nil_or_concat text with rfl | ⟨text, c, hconcat⟩
    · -- The first slash would be the last character.
      rw [hend d rfl] at hslash
      cases hslash
    · rw [List.concat_eq_append] at hconcat
      subst hconcat
      have hc : isSlash .special c = false := by
        apply hend
        rw [← List.cons_append]
        exact List.getLast?_concat
      rw [List.cons_append, pathAfterAuthority_of_slash hslash, pathAfterAuthority_of_slash hslash]
      exact pathOf_endpoint hc text

/-- A path whose text ends with a slash keeps it in front of the endpoint. -/
theorem pathAfterAuthority_endpoint_of_slash {text : List Char} {c : Char}
    (hbegin : ∀ c, text.head? = some c → isSlash .special c = true)
    (hlast : text.getLast? = some c) (hc : isSlash .special c = true) :
    (pathAfterAuthority .special (text ++ queryRangePath.toList)).text =
        (pathAfterAuthority .special text).text ++ queryRangePath.toList ∧
      (pathAfterAuthority .special text).text.getLast? = some '/' := by
  obtain ⟨front, rfl⟩ := List.getLast?_eq_some_iff.mp hlast
  cases front with
  | nil =>
    rw [List.nil_append, List.singleton_append, pathAfterAuthority_of_slash hc,
      pathAfterAuthority_of_slash hc]
    decide
  | cons d front =>
    have hslash := hbegin d rfl
    rw [List.cons_append, List.cons_append, pathAfterAuthority_of_slash hslash,
      pathAfterAuthority_of_slash hslash]
    exact pathOf_endpoint_of_slash hc front

end Endpoint

section Parsing

variable {scheme text rest : List Char} {url : Url}

theorem afterSlashes_eq (scheme : List Char) (kind : SchemeKind) (text : List Char) :
    afterSlashes scheme kind text =
      let authorityText := (splitAtFirst (endsAuthority kind) text).1
      let rest := (splitAtFirst (endsAuthority kind) text).2
      let path := splitAtFirst (fun c => c = '?' || c = '#') rest
      match authorityOf scheme kind authorityText rest.isEmpty with
      | .error e => .error e
      | .ok authority => .ok (withEnd
        { scheme, authority := some authority, path := pathAfterAuthority kind path.1 } kind path.2) := by
  unfold afterSlashes
  cases h : authorityOf scheme kind (splitAtFirst (endsAuthority kind) text).1
    (splitAtFirst (endsAuthority kind) text).2.isEmpty <;> simp [h]

theorem scheme_afterSlashes {kind : SchemeKind} (h : afterSlashes scheme kind text = .ok url) :
    url.scheme = scheme := by
  rw [afterSlashes_eq] at h
  dsimp only at h
  split at h
  · cases h
  · cases h
    rfl

theorem scheme_fileUrl (h : fileUrl scheme text = .ok url) : url.scheme = scheme := by
  unfold fileUrl at h
  simp only [] at h
  split at h
  · next a b tail hfront =>
    split at h
    · split at h
      · cases h
        rfl
      · cases hhost : fileHost (splitAtFirst (isSlash .file) tail).1 with
        | error e =>
          rw [hhost] at h
          cases h
        | ok host =>
          rw [hhost] at h
          cases h
          rfl
    · cases h
      rfl
  · cases h
    rfl

theorem scheme_plainUrl (h : plainUrl scheme text = .ok url) : url.scheme = scheme := by
  unfold plainUrl at h
  split at h
  · exact scheme_afterSlashes h
  · cases h
    rfl

/-- A text without a host has no authority that a web scheme accepts, so it does not matter whether the
URL ends there. -/
theorem authorityOf_notAtEnd {atEnd : Bool} {authority : Authority}
    (h : authorityOf scheme .special text atEnd = .ok authority) :
    authorityOf scheme .special text false = .ok authority := by
  unfold authorityOf at h ⊢
  generalize splitUserinfo text = parts at h ⊢
  obtain ⟨user, rest⟩ := parts
  cases rest with
  | nil =>
    dsimp only at h
    split at h
    · cases h
    · cases h
  | cons c rest =>
    dsimp only at h ⊢
    rw [if_neg (by simp)] at h ⊢
    exact h

/-- A query or a fragment begins here. -/
def endsPath (c : Char) : Bool := c = '?' || c = '#'

theorem endsAuthority_eq (c : Char) :
    endsAuthority .special c = (isSlash .special c || endsPath c) := by
  simp only [endsAuthority, isSlash, endsPath, Bool.or_assoc]
  cases decide (c = '?') <;> cases decide (c = '#') <;> simp

/-- The web URL with the text that follows its authority. -/
def webUrl (scheme : List Char) (authority : Authority) (rest : List Char) : Url :=
  withEnd ⟨scheme, some authority, pathAfterAuthority .special (splitAtFirst endsPath rest).1,
    none, none⟩ .special (splitAtFirst endsPath rest).2

theorem webUrl_of_plain {authority : Authority} (h : ∀ c ∈ rest, endsPath c = false) :
    webUrl scheme authority rest =
      ⟨scheme, some authority, pathAfterAuthority .special rest, none, none⟩ := by
  rw [webUrl, splitAtFirst_of_none h]
  rfl

theorem path_webUrl_append (scheme : List Char) (authority : Authority) {c : Char} (hc : c ∈ rest)
    (hends : endsPath c = true) (more : List Char) :
    (webUrl scheme authority (rest ++ more)).path = (webUrl scheme authority rest).path := by
  have hfront : (splitAtFirst endsPath (rest ++ more)).1 = (splitAtFirst endsPath rest).1 := by
    obtain ⟨front, behind, rfl⟩ := List.append_of_mem hc
    rw [List.append_assoc, List.cons_append, splitAtFirst_append hends, splitAtFirst_append hends]
  change pathAfterAuthority .special (splitAtFirst endsPath (rest ++ more)).1 =
    pathAfterAuthority .special (splitAtFirst endsPath rest).1
  rw [hfront]

/-- A web URL in whose text one of these characters follows the authority has a query or a fragment. -/
theorem webUrl_of_mark (scheme : List Char) (authority : Authority) {c : Char} (hc : c ∈ rest)
    (hends : endsPath c = true) : (webUrl scheme authority rest).query ≠ none ∨
      (webUrl scheme authority rest).fragment ≠ none := by
  have hmem : c ∈ (splitAtFirst endsPath rest).2 :=
    mem_dropWhile_of_mem (by rw [hends]; rfl) hc
  have hhead : ∀ d, (splitAtFirst endsPath rest).2.head? = some d → endsPath d = true :=
    fun d => head_splitAtFirst
  rw [webUrl]
  generalize (splitAtFirst endsPath rest).2 = behind at hmem hhead
  cases behind with
  | nil => cases hmem
  | cons d behind =>
    have hmark : d = '?' ∨ d = '#' := by simpa [endsPath] using hhead d rfl
    rcases hmark with rfl | rfl
    · left
      simp [withEnd, splitAtFirst]
    · right
      simp [withEnd, splitAtFirst]

/-- A text is what follows the authority in the text of a web URL. -/
structure BehindAuthority (text rest : List Char) : Prop where
  suffix : rest <:+ text
  head : ∀ c, rest.head? = some c → endsAuthority .special c = true
  marks : ∀ c ∈ text, endsPath c = true → c ∈ rest
  last : ∀ c, text.getLast? = some c → endsAuthority .special c = true → rest ≠ []

/-- A web URL is read behind the slashes after its scheme. -/
theorem parse_web {text : String} (h : parse text = .ok url)
    (hweb : url.schemeName = "http" ∨ url.schemeName = "https") :
    ∃ rest, splitScheme (cleaned text.toList) = some (url.scheme, rest) ∧
      schemeKind url.scheme = .special ∧
      afterSlashes url.scheme .special (rest.dropWhile (isSlash .special)) = .ok url := by
  have hkind : schemeKind url.scheme = .special := by
    have hname : String.ofList url.scheme = "http" ∨ String.ofList url.scheme = "https" := hweb
    rcases hname with hname | hname
    · rw [schemeKind, hname]
      rfl
    · rw [schemeKind, hname]
      rfl
  rw [parse] at h
  split at h
  · cases h
  · next scheme rest hsplit =>
    split at h
    · next hfile =>
      rw [scheme_fileUrl h, hfile] at hkind
      cases hkind
    · obtain rfl := scheme_afterSlashes h
      exact ⟨rest, hsplit, hkind, h⟩
    · next hplain =>
      rw [scheme_plainUrl h, hplain] at hkind
      cases hkind

theorem afterSlashes_parts (h : afterSlashes scheme .special text = .ok url) :
    ∃ authority, authorityOf scheme .special (splitAtFirst (endsAuthority .special) text).1 false =
        .ok authority ∧ url = withEnd ⟨scheme, some authority, pathAfterAuthority .special
          (splitAtFirst endsPath (splitAtFirst (endsAuthority .special) text).2).1, none, none⟩ .special
          (splitAtFirst endsPath (splitAtFirst (endsAuthority .special) text).2).2 := by
  rw [afterSlashes_eq] at h
  dsimp only at h
  split at h
  · cases h
  · next authority hauthority =>
    cases h
    exact ⟨authority, authorityOf_notAtEnd hauthority, rfl⟩

theorem ne_nil_of_afterSlashes (h : afterSlashes scheme .special text = .ok url) : text ≠ [] := by
  rintro rfl
  obtain ⟨authority, hauthority, -⟩ := afterSlashes_parts h
  cases hauthority

theorem afterSlashes_append {authority : Authority} (text : List Char) {more : List Char}
    (h : authorityOf scheme .special (splitAtFirst (endsAuthority .special) text).1 false =
      .ok authority) :
    afterSlashes scheme .special (text ++ '/' :: more) = .ok (withEnd ⟨scheme, some authority,
      pathAfterAuthority .special
        (splitAtFirst endsPath ((splitAtFirst (endsAuthority .special) text).2 ++ '/' :: more)).1,
      none, none⟩ .special
      (splitAtFirst endsPath ((splitAtFirst (endsAuthority .special) text).2 ++ '/' :: more)).2) := by
  have hslash : endsAuthority .special '/' = true := by decide
  rw [afterSlashes_eq, splitAtFirst_append hslash]
  dsimp only
  rw [show ((splitAtFirst (endsAuthority .special) text).2 ++ '/' :: more).isEmpty = false by simp, h]
  rfl

theorem cleaned_endpoint {c : Char} (hc : atEnd c = false)
    (hlast : (text.filter stays).getLast? = some c) :
    cleaned (text ++ Loki.queryRangePath.toList) = cleaned text ++ Loki.queryRangePath.toList := by
  have hpath : Loki.queryRangePath.toList = "/loki/api/v1/query_rang".toList ++ ['e'] := by decide
  have hstays : ∀ c ∈ "/loki/api/v1/query_rang".toList, stays c = true := List.all_eq_true.mp rfl
  rw [hpath]
  exact cleaned_append hc (by decide) hlast hstays

theorem BehindAuthority.getLast_eq {text rest : List Char} (h : BehindAuthority text rest)
    (hne : rest ≠ []) : rest.getLast? = text.getLast? := by
  obtain ⟨front, rfl⟩ := h.suffix
  rw [List.getLast?_append, List.getLast?_eq_some_getLast hne, Option.some_or]

/-- A text that names a URL has a character that stays. -/
theorem exists_last_of_parse {text : String} (h : parse text = .ok url) :
    ∃ c, (text.toList.filter stays).getLast? = some c := by
  have hne : cleaned text.toList ≠ [] := by
    intro hnil
    rw [parse, hnil] at h
    cases h
  obtain ⟨c, hc⟩ := List.exists_mem_of_ne_nil _ hne
  have hkept := List.ne_nil_of_mem (mem_of_mem_cleaned hc)
  exact ⟨_, List.getLast?_eq_some_getLast hkept⟩

/-- What a web URL and the URL with the endpoint put behind its text have in common: all but what
comes behind the authority. -/
theorem parse_endpoint {text : String} (h : parse text = .ok url)
    (hweb : url.schemeName = "http" ∨ url.schemeName = "https") {c : Char}
    (hlast : (text.toList.filter stays).getLast? = some c) (hc : atEnd c = false) :
    ∃ authority rest, BehindAuthority (cleaned text.toList) rest ∧
      url = webUrl url.scheme authority rest ∧
      parse (text ++ Loki.queryRangePath) =
        .ok (webUrl url.scheme authority (rest ++ Loki.queryRangePath.toList)) := by
  obtain ⟨behind, hsplit, hkind, hslashes⟩ := parse_web h hweb
  obtain ⟨authority, hauthority, hurl⟩ := afterSlashes_parts hslashes
  have hbody := ne_nil_of_afterSlashes hslashes
  obtain ⟨name, hname, -, hnameChars, -⟩ := splitScheme_eq_some_iff.mp hsplit
  have hbodySuffix : behind.dropWhile (isSlash .special) <:+ cleaned text.toList := by
    rw [hname]
    exact (List.dropWhile_suffix _).trans
      ((List.suffix_cons ':' behind).trans (List.suffix_append name _))
  refine ⟨authority, (splitAtFirst (endsAuthority .special)
    (behind.dropWhile (isSlash .special))).2, ⟨?_, fun d hd => head_splitAtFirst hd,
      fun d hd hends => ?_, fun d hd hends => ?_⟩, hurl, ?_⟩
  · exact (List.dropWhile_suffix _).trans hbodySuffix
  · have hmark : d = '?' ∨ d = '#' := by simpa [endsPath] using hends
    -- Neither a scheme nor the slashes nor an authority holds such a character.
    have hnot : isSchemeChar d = false ∧ d ≠ ':' ∧ isSlash .special d = false ∧
        endsAuthority .special d = true := by
      rcases hmark with rfl | rfl
      · decide
      · decide
    obtain ⟨hscheme, hcolon, hslash, hauthorityEnd⟩ := hnot
    rw [hname, List.mem_append, List.mem_cons] at hd
    have hbehind : d ∈ behind := by
      refine (hd.resolve_left fun hin => ?_).resolve_left hcolon
      rw [hnameChars d hin] at hscheme
      cases hscheme
    exact mem_dropWhile_of_mem (by rw [hauthorityEnd]; rfl) (mem_dropWhile_of_mem hslash hbehind)
  · -- The last character of the text is also that of what follows the slashes.
    have hmem : d ∈ behind.dropWhile (isSlash .special) := by
      obtain ⟨front, hfront⟩ := hbodySuffix
      rw [← hfront, List.getLast?_append, List.getLast?_eq_some_getLast hbody,
        Option.some_or] at hd
      cases hd
      exact List.getLast_mem hbody
    exact List.ne_nil_of_mem (mem_dropWhile_of_mem (by rw [hends]; rfl) hmem)
  · -- Each cut of the text lies where it lay, and what was put behind it ends up in the last part.
    rw [parse, String.toList_append, cleaned_endpoint hc hlast, splitScheme_append hsplit]
    dsimp only
    rw [hkind]
    dsimp only
    rw [dropWhile_append_of_ne_nil hbody, queryRangePath_eq]
    exact afterSlashes_append _ hauthority

end Parsing

end Url

end RunLog
