import ChatOptions.Options.Equality
import ChatOptions.Proofs.Decimal.Double

/-! Equality of options and of what they are made of, part by part. -/

namespace ChatOptions

/-- Schemas are equal when they agree part by part. -/
theorem NamedSchema.beq_iff {first second : NamedSchema} :
    (first == second) = true ↔
      first.name = second.name ∧ first.description = second.description ∧
        (first.schema == second.schema) = true ∧ first.strict = second.strict := by
  obtain ⟨name, description, schema, strict⟩ := first
  obtain ⟨otherName, otherDescription, otherSchema, otherStrict⟩ := second
  -- The derived equality compares the parts in their order.
  show (instBEqNamedSchema.beq _ _) = true ↔ _
  simp only [instBEqNamedSchema.beq, Bool.and_eq_true, beq_iff_eq]

/-- Functions are equal when they agree part by part. -/
theorem FunctionDefinition.beq_iff {first second : FunctionDefinition} :
    (first == second) = true ↔
      first.name = second.name ∧ first.description = second.description ∧
        (first.parameters == second.parameters) = true := by
  obtain ⟨name, description, parameters⟩ := first
  obtain ⟨otherName, otherDescription, otherParameters⟩ := second
  -- The derived equality compares the parts in their order.
  show (instBEqFunctionDefinition.beq _ _) = true ↔ _
  simp only [instBEqFunctionDefinition.beq, Bool.and_eq_true, beq_iff_eq]

/-- Tools are equal when their functions are, as there is one kind of tool. -/
theorem Tool.beq_iff {first second : Tool} :
    (first == second) = true ↔ (first.function == second.function) = true := by
  obtain ⟨⟨⟩, function⟩ := first
  obtain ⟨⟨⟩, otherFunction⟩ := second
  show (instBEqTool.beq _ _) = true ↔ _
  simp only [instBEqTool.beq, beq_self_eq_true, Bool.true_and]

/-- Output shapes are equal when they are of one kind, with equal schemas if they have any. -/
theorem ResponseFormat.beq_cases {first second : ResponseFormat}
    (equal : (first == second) = true) :
    first = second ∨ ∃ schema other, first = .jsonSchema schema ∧ second = .jsonSchema other ∧
      (schema == other) = true := by
  change (instBEqResponseFormat.beq first second) = true at equal
  -- Shapes of different kinds are never equal, and two of the three kinds hold nothing.
  cases first <;> cases second <;> simp only [instBEqResponseFormat.beq, Bool.false_eq_true] at equal
  · exact .inl rfl
  · exact .inl rfl
  · exact .inr ⟨_, _, rfl, rfl, equal⟩

namespace Options

/-- Options are equal when they agree in all fourteen parts, doubles in that they are the same. -/
theorem beq_iff {first second : Options} :
    (first == second) = true ↔
      first.model = second.model ∧ Option.Rel Double.Same first.temperature second.temperature ∧
        Option.Rel Double.Same first.topP second.topP ∧ first.maxTokens = second.maxTokens ∧
        first.safePrompt = second.safePrompt ∧ first.randomSeed = second.randomSeed ∧
        (first.responseFormat == second.responseFormat) = true ∧ first.stop = second.stop ∧
        (first.tools == second.tools) = true ∧ first.toolChoice = second.toolChoice ∧
        (first.callbacks == second.callbacks) = true ∧ first.functions = second.functions ∧
        first.proxyToolCalls = second.proxyToolCalls ∧
        (first.toolContext == second.toolContext) = true := by
  -- Sets of names are equal when they list the same names.
  have names : (first.functions == second.functions) = true
      ↔ first.functions = second.functions := by
    rw [SortedMap.ext_iff]
    show (first.functions.entries == second.functions.entries) = true ↔ _
    exact beq_iff_eq
  show (Options.beq first second) = true ↔ _
  simp only [Options.beq, Bool.and_eq_true, beq_iff_eq, Double.same_iff, names, and_assoc]

end Options

end ChatOptions
