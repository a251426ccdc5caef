import Dashboard.Config.Document
import Dashboard.Proofs.Yaml.Numbers
import Dashboard.Proofs.Yaml.Trees

/-! # Configurations written and read back

A configuration is written as lines of block mappings. They have the tokens of one tree, and the
tree has every setting under its name, so a configuration that is accepted is read back. -/

namespace Dashboard.SessionConfig

open Yaml

/-! ## Accepted limits -/

/-- A limit that is positive and finite, or none. -/
def IsLimit (limit : Option Float) : Prop :=
  ∀ x ∈ limit, x.isFinite = true ∧ 0 < Double.value x

theorem isLimit_of_checkLimit {field : String} {limit : Option Float}
    (h : checkLimit field limit = .ok ()) : IsLimit limit := by
  rintro x rfl
  rw [checkLimit] at h
  split at h
  · next haccepted =>
    rw [Bool.and_eq_true, decide_eq_true_eq] at haccepted
    exact ⟨haccepted.1, (Double.lt_iff_value_lt rfl haccepted.1).mp haccepted.2⟩
  · cases h

theorem ok_of_bind_eq_ok {ε α : Type} {check : Except ε Unit} {next : Unit → Except ε α} {a : α}
    (h : (check >>= next) = .ok a) : check = .ok () ∧ next () = .ok a := by
  cases check with
  | error e => cases h
  | ok _ => exact ⟨rfl, h⟩

/-- An accepted configuration has limits that are positive and finite, or none. -/
theorem isLimit_of_validate {config : SessionConfig} (h : config.validate = .ok ()) :
    IsLimit config.cpuLimit ∧ IsLimit config.memoryLimit := by
  obtain ⟨-, h⟩ := ok_of_bind_eq_ok h
  obtain ⟨-, h⟩ := ok_of_bind_eq_ok h
  obtain ⟨-, h⟩ := ok_of_bind_eq_ok h
  obtain ⟨-, h⟩ := ok_of_bind_eq_ok h
  obtain ⟨hcpu, hmemory⟩ := ok_of_bind_eq_ok h
  exact ⟨isLimit_of_checkLimit hcpu, isLimit_of_checkLimit hmemory⟩

/-- A configuration with such limits agrees with itself. -/
theorem agrees_self {config : SessionConfig} (hcpu : IsLimit config.cpuLimit)
    (hmemory : IsLimit config.memoryLimit) : config.agrees config = true := by
  have hself {limit : Option Float} (h : IsLimit limit) : (limit == limit) = true := by
    cases limit with
    | none => rfl
    | some x => exact Double.beq_self (Double.isNaN_of_isFinite (h x rfl).1)
  simp [agrees, hself hcpu, hself hmemory]

/-! ## Lines -/

/-- A bare word after its key. -/
def bare (word : String) : WrittenScalar :=
  ⟨word.toList ++ ['\n'], word, .plain⟩

/-- A text after a key in the first indented column. -/
def nested (text : String) : WrittenScalar :=
  ⟨scalarLine (2 * indentStep) indentStep text, text, styleOf text⟩

/-- The lines of a document. -/
def lines (config : SessionConfig) : List Line :=
  [⟨0, "metric_history", some (bare (toString config.metricHistory))⟩,
   ⟨0, "log_history", some (bare (toString config.logHistory))⟩,
   ⟨0, "backfill", none⟩,
   ⟨indentStep, "limit", some (bare (toString config.backfill.limit))⟩,
   ⟨indentStep, "window_secs", some (bare (toString config.backfill.windowSeconds))⟩,
   ⟨indentStep, "timeout_ms", some (bare (toString config.backfill.timeoutMillis))⟩,
   ⟨0, "cpu_limit", some (bare (limitText config.cpuLimit))⟩,
   ⟨0, "memory_limit", some (bare (limitText config.memoryLimit))⟩,
   ⟨0, "logging", none⟩,
   ⟨indentStep, "level", some (nested config.logging.level)⟩,
   ⟨indentStep, "format", some (bare config.logging.format.name)⟩]

theorem toList_toYaml (config : SessionConfig) :
    config.toYaml.toList = config.lines.flatMap Line.text := by
  simp [toYaml, lines, line, Line.text, Line.content, bare, nested]

/-- The fields of the query settings. -/
def backfillFields (config : BackfillConfig) : Fields :=
  .cons "limit" (.scalar (toString config.limit) .plain) <|
  .cons "window_secs" (.scalar (toString config.windowSeconds) .plain) <|
  .cons "timeout_ms" (.scalar (toString config.timeoutMillis) .plain) .nil

/-- The fields of the logging settings. -/
def loggingFields (config : LogConfig) : Fields :=
  .cons "level" (.scalar config.level (styleOf config.level)) <|
  .cons "format" (.scalar config.format.name .plain) .nil

/-- The fields of a configuration. -/
def fields (config : SessionConfig) : Fields :=
  .cons "metric_history" (.scalar (toString config.metricHistory) .plain) <|
  .cons "log_history" (.scalar (toString config.logHistory) .plain) <|
  .cons "backfill" (.mapping (backfillFields config.backfill)) <|
  .cons "cpu_limit" (.scalar (limitText config.cpuLimit) .plain) <|
  .cons "memory_limit" (.scalar (limitText config.memoryLimit) .plain) <|
  .cons "logging" (.mapping (loggingFields config.logging)) .nil

/-- The lines have the tokens of the tree. -/
theorem finish_lines (config : SessionConfig) :
    (config.lines.foldl Blocks.line Blocks.empty).finish = (Tree.mapping config.fields).tokens := by
  simp [lines, bare, nested, indentStep, Blocks.line, Blocks.close, Blocks.withKey, Blocks.openAt,
    Blocks.push, Blocks.empty, Blocks.finish, Lexer.unroll, Tree.tokens, fields, Fields.tokens,
    backfillFields, loggingFields]

/-! ## Words -/

theorem isBare_toString (n : UInt64) : IsBare (toString n).toList := by
  have htext : (toString n).toList = Nat.toDigits 10 n.toNat := toList_toString_word n
  rw [htext]
  exact isBare_of_isNumeral
    (Decimal.isNumeral_of_areDigits (Decimal.areDigits_toDigits _) Nat.toDigits_ne_nil)

theorem isBare_limitText {limit : Option Float} (h : IsLimit limit) :
    IsBare (limitText limit).toList := by
  cases limit with
  | none => exact ⟨⟨'n', rfl, rfl⟩, by simp [limitText, isBareChar, isWord]⟩
  | some x =>
      obtain ⟨hx, hpos⟩ := h x rfl
      exact isBare_of_isNumeral (Decimal.isNumeral_floatText hx hpos)

theorem isBare_name (format : LogFormat) : IsBare format.name.toList := by
  cases format with
  | pretty => exact ⟨⟨'p', rfl, rfl⟩, by simp [LogFormat.name, isBareChar, isWord]⟩
  | json => exact ⟨⟨'j', rfl, rfl⟩, by simp [LogFormat.name, isBareChar, isWord]⟩

/-! ## Reading -/

section Reading

variable {config : SessionConfig}

theorem areReadable_lines (hcpu : IsLimit config.cpuLimit) (hmemory : IsLimit config.memoryLimit) :
    AreReadable config.lines := by
  have hdeeper : 0 < indentStep := by decide
  have hword {column next : ℕ} {key text : String} (hkey : IsKey key.toList)
      (htext : IsBare text.toList) (hnext : next ≤ column) :
      Line.IsReadable ⟨column, key, some (bare text)⟩ next :=
    Line.isReadable_some hkey (htext.isReadable column) hnext
  -- One entry for each line, in the order of the document; the keys are left for the end.
  refine ⟨hword ?_ (isBare_toString _) le_rfl, hword ?_ (isBare_toString _) le_rfl,
    Line.isReadable_none ?_ hdeeper, hword ?_ (isBare_toString _) le_rfl,
    hword ?_ (isBare_toString _) le_rfl, hword ?_ (isBare_toString _) hdeeper.le,
    hword ?_ (isBare_limitText hcpu) le_rfl, hword ?_ (isBare_limitText hmemory) le_rfl,
    Line.isReadable_none ?_ hdeeper, Line.isReadable_some ?_ ?_ le_rfl,
    hword ?_ (isBare_name _) hdeeper.le, trivial⟩
  case refine_11 => exact isReadable_scalarLine config.logging.level hdeeper (by decide)
  all_goals
    exact ⟨by simp, by simp [isKeyChar], by simp⟩

theorem isAllowed_lines (hcpu : IsLimit config.cpuLimit) (hmemory : IsLimit config.memoryLimit) :
    ∀ line ∈ config.lines, ∀ scalar ∈ line.value, ∀ c ∈ scalar.written, isAllowed c = true := by
  have hword {text : String} (h : IsBare text.toList) :
      ∀ c ∈ (bare text).written, isAllowed c = true := by
    intro c hc
    rcases List.mem_append.mp hc with hc | hc
    · exact isAllowed_of_isBareChar (h.chars c hc)
    · rw [List.mem_singleton.mp hc]
      rfl
  have hlevel : ∀ c ∈ (nested config.logging.level).written, isAllowed c = true :=
    isAllowed_scalarLine _ (by decide) _
  have hnumber (n : UInt64) := hword (isBare_toString n)
  simpa [lines] using ⟨hnumber _, hnumber _, hnumber _, hnumber _, hnumber _,
    hword (isBare_limitText hcpu), hword (isBare_limitText hmemory), hlevel,
    hword (isBare_name _)⟩

/-- The document of a configuration is the tree of its settings. -/
theorem read?_toYaml (hcpu : IsLimit config.cpuLimit) (hmemory : IsLimit config.memoryLimit) :
    Document.read? config.toYaml = some ⟨some (Tree.mapping config.fields).node, []⟩ := by
  have htokens := tokens?_of_lines config.toList_toYaml (isAllowed_lines hcpu hmemory)
    (areReadable_lines hcpu hmemory) rfl
  rw [Document.read?, htokens, config.finish_lines, Option.bind_some, ofTokens?_tokens]

/-- A limit is read from its text. -/
theorem optionalFloat?_limitText {limit : Option Float} (h : IsLimit limit) :
    (Node.scalar none (limitText limit) .plain).optionalFloat? = some limit := by
  cases limit with
  | none => rfl
  | some x =>
      obtain ⟨hx, hpos⟩ := h x rfl
      have hnumeral := Decimal.isNumeral_floatText hx hpos
      have hread := floatOfText?_floatText hx hpos
      have hnull : isNullText (Decimal.floatText Decimal.documentLayout x) = false :=
        contains_eq_false_of_isNumeral hnumeral _ (by simp)
      rw [limitText, Node.optionalFloat?, hread, hnull]
      simp [String.toList_eq_nil_iff.not.mp (isBare_of_isNumeral hnumeral).ne_nil]

theorem ofName?_name (format : LogFormat) : LogFormat.ofName? format.name = some format := by
  cases format <;> rfl

theorem ofNode?_backfillFields (document : Document) (config : BackfillConfig) :
    BackfillConfig.ofNode? document (Tree.mapping (backfillFields config)).node =
      some config := by
  rw [BackfillConfig.ofNode?, fields?_mapping]
  simp [backfillFields, Fields.entries, fieldOr, field?, word?_toString]

theorem ofNode?_loggingFields (document : Document) (config : LogConfig) :
    LogConfig.ofNode? document (Tree.mapping (loggingFields config)).node = some config := by
  rw [LogConfig.ofNode?, fields?_mapping]
  simp [loggingFields, Fields.entries, fieldOr, field?, Node.text?, Node.choice?,
    ofName?_name]

theorem ofDocument?_fields (hcpu : IsLimit config.cpuLimit) (hmemory : IsLimit config.memoryLimit) :
    ofDocument? ⟨some (Tree.mapping config.fields).node, []⟩ = some config := by
  rw [ofDocument?, Option.getD_some, resolve?_node]
  generalize (⟨some (Tree.mapping config.fields).node, []⟩ : Document) = document
  simp only [bind, Option.bind_some, fields?_mapping]
  have hbackfill := ofNode?_backfillFields document config.backfill
  have hlogging := ofNode?_loggingFields document config.logging
  simp [fields, Fields.entries, fieldOr, field?, word?_toString, optionalFloat?_limitText hcpu,
    optionalFloat?_limitText hmemory, hbackfill, hlogging]

/-- A document is not blank: it starts with a name. -/
theorem trim_toYaml_ne_nil (config : SessionConfig) : Text.trim config.toYaml.toList ≠ [] := by
  obtain ⟨rest, hrest⟩ : ∃ rest, config.toYaml.toList = 'm' :: rest := by
    simp [toYaml, line]
  have hblank : Text.isBlank 'm' = false := by decide
  rw [hrest, Text.trim, List.dropWhile_cons_of_neg (by simp [hblank])]
  intro hnil
  have hall := List.dropWhile_eq_nil_iff.mp (List.reverse_eq_nil_iff.mp hnil)
  have hfirst := hall 'm' (by simp)
  rw [hblank] at hfirst
  exact Bool.noConfusion hfirst

/-- An accepted configuration that is written is read back, in every setting. -/
theorem ofYaml_toYaml (h : config.validate = .ok ()) :
    ofYaml config.toYaml = .ok config ∧ config.agrees config = true := by
  obtain ⟨hcpu, hmemory⟩ := isLimit_of_validate h
  refine ⟨?_, agrees_self hcpu hmemory⟩
  have hread : (Document.read? config.toYaml).bind ofDocument? = some config := by
    rw [read?_toYaml hcpu hmemory, Option.bind_some, ofDocument?_fields hcpu hmemory]
  have hblank : (Text.trim config.toYaml.toList).isEmpty = false :=
    List.isEmpty_eq_false_iff.mpr config.trim_toYaml_ne_nil
  unfold ofYaml
  simp only [hblank, hread, Bool.false_eq_true, if_false]
  -- What was read is checked again, as it was before it was written.
  change (config.validate >>= fun _ => pure config) = .ok config
  rw [h]
  rfl

/-- Largest numbers, an empty window, limits in plain and in exponent form, and a level that needs
escapes. -/
def extremes : SessionConfig where
  metricHistory := 18446744073709551615
  logHistory := 1
  backfill := { limit := 18446744073709551615, windowSeconds := 0, timeoutMillis := 1 }
  cpuLimit := some 0.1
  memoryLimit := some 1e22
  logging := { level := "null: 'warn' \n \t# 0x1F\r", format := .json }

theorem ofYaml_toYaml_extremes :
    extremes.validate = .ok () ∧ ofYaml extremes.toYaml = .ok extremes ∧
      extremes.agrees extremes = true :=
  ⟨rfl, ofYaml_toYaml rfl⟩

end Reading

end Dashboard.SessionConfig
