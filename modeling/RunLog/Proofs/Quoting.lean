import RunLog.Loki.Explore
import RunLog.Proofs.JsonText

namespace RunLog.Loki

/-! ### Quoted strings -/

/-- The character that a backslash and the given one stand for. -/
def unescape? : Char → Option Char
  | '\\' => some '\\'
  | '"' => some '"'
  | 'n' => some '\n'
  | _ => none

/-- Reads a string from behind the quote that begins it: the characters that it stands for, and what is
left behind the quote that ends it. -/
def readQuoted? : List Char → Option (List Char × List Char)
  | [] => none
  | '"' :: rest => some ([], rest)
  | '\\' :: c :: rest => do
    let c ← unescape? c
    let (text, left) ← readQuoted? rest
    return (c :: text, left)
  | c :: rest => do
    let (text, left) ← readQuoted? rest
    return (c :: text, left)

theorem escapeChar_cases (c : Char) :
    (∃ d, escapeChar c = ['\\', d] ∧ unescape? d = some c ∧ d ≠ '\n') ∨
    (escapeChar c = [c] ∧ c ≠ '\\' ∧ c ≠ '"' ∧ c ≠ '\n') := by
  unfold escapeChar
  split
  · exact .inl ⟨'\\', rfl, rfl, by decide⟩
  · exact .inl ⟨'"', rfl, rfl, by decide⟩
  · exact .inl ⟨'n', rfl, rfl, by decide⟩
  · next hbackslash hquote hnewline => exact .inr ⟨rfl, hbackslash, hquote, hnewline⟩

theorem readQuoted?_plain {c : Char} (hbackslash : c ≠ '\\') (hquote : c ≠ '"') (rest : List Char) :
    readQuoted? (c :: rest) = (readQuoted? rest).map fun read => (c :: read.1, read.2) := by
  rw [readQuoted?]
  · cases readQuoted? rest <;> rfl
  · exact hquote
  · exact fun _ _ hc => absurd hc hbackslash

/-- Reading ends at the quote behind an escaped value, and gives the value. -/
theorem readQuoted?_escaped (value rest : List Char) :
    readQuoted? (value.flatMap escapeChar ++ '"' :: rest) = some (value, rest) := by
  induction value with
  | nil => rfl
  | cons c value ih =>
    rw [List.flatMap_cons, List.append_assoc]
    rcases escapeChar_cases c with ⟨d, hescape, hunescape, -⟩ | ⟨hescape, hbackslash, hquote, -⟩
    · rw [hescape]
      change readQuoted? ('\\' :: d :: (value.flatMap escapeChar ++ '"' :: rest)) = _
      rw [readQuoted?, hunescape, ih]
      rfl
    · rw [hescape, List.singleton_append, readQuoted?_plain hbackslash hquote, ih]
      rfl

/-- A backslash at the end of a value does not take the quote with it. -/
example : readQuoted? ("a\\".toList.flatMap escapeChar ++ "\", run=1".toList) =
    some ("a\\".toList, ", run=1".toList) := by decide

theorem newline_not_mem_escaped (value : List Char) : '\n' ∉ value.flatMap escapeChar := by
  intro hmem
  obtain ⟨c, -, hc⟩ := List.mem_flatMap.mp hmem
  rcases escapeChar_cases c with ⟨d, hescape, -, hd⟩ | ⟨hescape, -, -, hnewline⟩
  · rw [hescape] at hc
    simp [hd.symm] at hc
  · rw [hescape] at hc
    exact hnewline (List.mem_singleton.mp hc).symm

theorem toList_escapeLabel (value : String) :
    (escapeLabel value).toList = value.toList.flatMap escapeChar := String.toList_ofList

/-! ### Labels with their values -/

section Labels

variable {label label' value value' rest rest' : String}

theorem toList_labelEquals_append (label value rest : String) :
    (labelEquals label value ++ rest).toList =
      label.toList ++ '=' :: '"' :: (value.toList.flatMap escapeChar ++ '"' :: rest.toList) := by
  simp [labelEquals, toList_escapeLabel]

/-- The name of a label ends at the first equals sign. -/
def IsLabel (label : String) : Prop := '=' ∉ label.toList

instance (label : String) : Decidable (IsLabel label) := inferInstanceAs (Decidable (¬ _))

theorem takeWhile_label (h : IsLabel label) (behind : List Char) :
    (label.toList ++ '=' :: behind).takeWhile (· ≠ '=') = label.toList := by
  rw [List.takeWhile_append_of_pos, List.takeWhile_cons_of_neg (by simp), List.append_nil]
  intro c hc
  simpa using fun heq : c = '=' => h (heq ▸ hc)

/-- A label, its value and what follows can be told from the text, whatever the value is. -/
theorem labelEquals_append_inj (h : IsLabel label) (h' : IsLabel label') :
    labelEquals label value ++ rest = labelEquals label' value' ++ rest' ↔
      label = label' ∧ value = value' ∧ rest = rest' := by
  constructor
  · intro hsame
    have hchars := congrArg String.toList hsame
    rw [toList_labelEquals_append, toList_labelEquals_append] at hchars
    have hlabel := congrArg (List.takeWhile (· ≠ '=')) hchars
    rw [takeWhile_label h, takeWhile_label h'] at hlabel
    -- Behind the same label the two values begin, and one reader reads both.
    rw [hlabel, List.append_cancel_left_eq] at hchars
    have hread := congrArg readQuoted? (List.cons.inj (List.cons.inj hchars).2).2
    rw [readQuoted?_escaped, readQuoted?_escaped] at hread
    obtain ⟨hvalue, hrest⟩ := Prod.mk.inj (Option.some.inj hread)
    exact ⟨String.toList_inj.mp hlabel, String.toList_inj.mp hvalue, String.toList_inj.mp hrest⟩
  · rintro ⟨rfl, rfl, rfl⟩
    rfl

theorem labelEquals_inj (h : IsLabel label) :
    labelEquals label value = labelEquals label value' ↔ value = value' := by
  rw [← String.append_empty (s := labelEquals label value),
    ← String.append_empty (s := labelEquals label value'), labelEquals_append_inj h h]
  simp

end Labels

/-! ### Queries -/

/-- A number ends where its digits do. -/
theorem toString_append_inj {n n' : Nat} {rest rest' : String} (h : Json.Delimits rest.toList)
    (h' : Json.Delimits rest'.toList) :
    toString n ++ rest = toString n' ++ rest' ↔ n = n' ∧ rest = rest' := by
  constructor
  · intro hsame
    have hchars := congrArg (fun s => Json.Token.scanNumber false s.toList) hsame
    simp only [String.toList_append, Json.toList_toString] at hchars
    rw [Json.scanNumber_decimal n h, Json.scanNumber_decimal n' h'] at hchars
    obtain ⟨hnumber, hrest⟩ := Prod.mk.inj (Option.some.inj hchars)
    exact ⟨(Numeral.mk.inj hnumber).2.1, String.toList_inj.mp hrest⟩
  · rintro ⟨rfl, rfl⟩
    rfl

namespace RunQuery

variable {query query' : RunQuery} {rest rest' : String}

theorem selector_append_inj : query.selector ++ rest = query'.selector ++ rest' ↔
    query.serviceNamespace = query'.serviceNamespace ∧ query.serviceName = query'.serviceName ∧
      rest = rest' := by
  have hname : IsLabel serviceNameLabel := by decide
  have hnamespace : IsLabel serviceNamespaceLabel := by decide
  have hne : serviceNameLabel ≠ serviceNamespaceLabel := by decide
  obtain ⟨scope, name, ns⟩ := query
  obtain ⟨scope', name', ns'⟩ := query'
  cases ns <;> cases ns' <;>
    simp [selector, String.append_assoc, labelEquals_append_inj, hname, hnamespace, hne, hne.symm]

/-- What stands behind the number of the run. -/
def behindRun (query : RunQuery) : String :=
  (match query.scope.step with
    | some step => ", " ++ labelEquals stepField step
    | none => "") ++ " | keep __line__"

theorem behindRun_of_step {step : String} (h : query.scope.step = some step) :
    query.behindRun = ", " ++ (labelEquals stepField step ++ " | keep __line__") := by
  rw [behindRun, h, String.append_assoc]

theorem behindRun_of_no_step (h : query.scope.step = none) : query.behindRun = " | keep __line__" := by
  rw [behindRun, h]
  rfl

theorem delimits_behindRun (query : RunQuery) : Json.Delimits query.behindRun.toList := by
  cases hstep : query.scope.step with
  | none =>
    rw [behindRun_of_no_step hstep]
    exact ⟨by decide, by decide, by decide, by decide⟩
  | some step =>
    rw [behindRun_of_step hstep, String.toList_append]
    exact Json.delimits_mark (by decide) _

theorem behindRun_inj : query.behindRun = query'.behindRun ↔ query.scope.step = query'.scope.step := by
  have hlabel : IsLabel stepField := by decide
  -- A comma stands behind the run only if a step follows.
  have hne (step : String) : ", " ++ (labelEquals stepField step ++ " | keep __line__") ≠
      " | keep __line__" := by
    intro hsame
    have hhead := congrArg (fun s => s.toList.head?) hsame
    simp at hhead
  cases hstep : query.scope.step with
  | none =>
    cases hstep' : query'.scope.step with
    | none =>
      rw [behindRun_of_no_step hstep, behindRun_of_no_step hstep']
      exact iff_of_true rfl rfl
    | some step' =>
      rw [behindRun_of_no_step hstep, behindRun_of_step hstep']
      exact iff_of_false (hne step').symm nofun
  | some step =>
    cases hstep' : query'.scope.step with
    | none =>
      rw [behindRun_of_step hstep, behindRun_of_no_step hstep']
      exact iff_of_false (hne step) nofun
    | some step' =>
      rw [behindRun_of_step hstep, behindRun_of_step hstep', String.append_right_inj,
        labelEquals_append_inj hlabel hlabel, Option.some.injEq]
      simp

theorem logql_eq (query : RunQuery) : query.logql = query.selector ++ (" | " ++
    (labelEquals traceField query.scope.trace ++ (", " ++
      (labelEquals pipelineField query.scope.pipeline ++ (", " ++ (runField ++ ("=" ++
        (toString query.scope.run.toNat ++ query.behindRun)))))))) := by
  unfold logql conditions behindRun
  cases query.scope.step with
  | none => simp only [String.append_assoc]
  | some step => simp only [String.append_assoc]

/-- Two queries are the same text only if they ask for the same log of the same service. -/
theorem logql_inj : query.logql = query'.logql ↔
    query.serviceNamespace = query'.serviceNamespace ∧ query.serviceName = query'.serviceName ∧
      query.scope.trace = query'.scope.trace ∧ query.scope.pipeline = query'.scope.pipeline ∧
      query.scope.run = query'.scope.run ∧ query.scope.step = query'.scope.step := by
  have htrace : IsLabel traceField := by decide
  have hpipeline : IsLabel pipelineField := by decide
  rw [logql_eq, logql_eq, selector_append_inj, String.append_right_inj,
    labelEquals_append_inj htrace htrace, String.append_right_inj,
    labelEquals_append_inj hpipeline hpipeline, String.append_right_inj, String.append_right_inj,
    String.append_right_inj, toString_append_inj query.delimits_behindRun query'.delimits_behindRun,
    behindRun_inj, UInt64.toNat_inj]
  simp only [true_and]

end RunQuery

/-! ### Queries of the viewer -/

section Explore

variable {config config' : Config} {scope scope' : RunScope}

/-- The name under which exporters for Loki 2 file the logs of a service. -/
def Config.job (config : Config) : String :=
  match config.serviceNamespace with
  | some ns => ns ++ "/" ++ config.serviceName
  | none => config.serviceName

theorem exploreLogql_v3Otel (config : Config) (scope : RunScope) :
    exploreLogql .v3Otel config scope = "\x7b" ++ (labelEquals serviceNameLabel config.serviceName ++
      ("\x7d | " ++ labelEquals traceField scope.trace)) := by
  simp only [exploreLogql, String.append_assoc]

theorem exploreLogql_v2JsonOtel (config : Config) (scope : RunScope) :
    exploreLogql .v2JsonOtel config scope = "\x7b" ++ (labelEquals "job" config.job ++
      ("\x7d | json | " ++ (labelEquals "traceid" scope.trace ++
        " | line_format \"\x7b\x7b.body\x7d\x7d\""))) := by
  unfold exploreLogql Config.job
  cases config.serviceNamespace with
  | none => simp only [String.append_assoc]
  | some ns => simp only [String.append_assoc]

theorem exploreLogql_v3Otel_inj :
    exploreLogql .v3Otel config scope = exploreLogql .v3Otel config' scope' ↔
      config.serviceName = config'.serviceName ∧ scope.trace = scope'.trace := by
  have hname : IsLabel serviceNameLabel := by decide
  have htrace : IsLabel traceField := by decide
  rw [exploreLogql_v3Otel, exploreLogql_v3Otel, String.append_right_inj,
    labelEquals_append_inj hname hname, String.append_right_inj, labelEquals_inj htrace]
  simp only [true_and]

theorem exploreLogql_v2JsonOtel_inj :
    exploreLogql .v2JsonOtel config scope = exploreLogql .v2JsonOtel config' scope' ↔
      config.job = config'.job ∧ scope.trace = scope'.trace := by
  have hjob : IsLabel "job" := by decide
  have htrace : IsLabel "traceid" := by decide
  rw [exploreLogql_v2JsonOtel, exploreLogql_v2JsonOtel, String.append_right_inj,
    labelEquals_append_inj hjob hjob, String.append_right_inj, labelEquals_append_inj htrace htrace]
  simp only [true_and, and_true]

end Explore

/-- No value breaks out of its quotes: behind the quote that begins a string, an escaped value and a quote
are read as the value, and what follows is left as it is; and no line ends inside the string. So the text
of a query says which log it asks for, and that of a link which logs it shows, whatever the names are. -/
theorem value_of_quoted :
    (∀ value rest : String,
      readQuoted? ((escapeLabel value).toList ++ '"' :: rest.toList) =
        some (value.toList, rest.toList) ∧
      '\n' ∉ (escapeLabel value).toList) ∧
    (∀ query query' : RunQuery, query.logql = query'.logql ↔
      query.serviceNamespace = query'.serviceNamespace ∧ query.serviceName = query'.serviceName ∧
        query.scope.trace = query'.scope.trace ∧ query.scope.pipeline = query'.scope.pipeline ∧
        query.scope.run = query'.scope.run ∧ query.scope.step = query'.scope.step) ∧
    ∀ (config config' : Config) (scope scope' : RunScope),
      (exploreLogql .v3Otel config scope = exploreLogql .v3Otel config' scope' ↔
        config.serviceName = config'.serviceName ∧ scope.trace = scope'.trace) ∧
      (exploreLogql .v2JsonOtel config scope = exploreLogql .v2JsonOtel config' scope' ↔
        config.job = config'.job ∧ scope.trace = scope'.trace) := by
  refine ⟨fun value rest => ?_, fun _ _ => RunQuery.logql_inj, fun _ _ _ _ => ?_⟩
  · rw [toList_escapeLabel]
    exact ⟨readQuoted?_escaped value.toList rest.toList, newline_not_mem_escaped value.toList⟩
  · exact ⟨exploreLogql_v3Otel_inj, exploreLogql_v2JsonOtel_inj⟩

end RunLog.Loki
