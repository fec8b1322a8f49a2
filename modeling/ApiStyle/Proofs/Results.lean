/-! What it takes for a step that can fail to have a result. Runs of such steps are taken apart and put together
with these. -/

namespace ApiStyle

variable {ε α β : Type}

theorem bind_eq_ok {program : Except ε α} {next : α → Except ε β} {value : β} :
    program >>= next = .ok value ↔ ∃ first, program = .ok first ∧ next first = .ok value := by
  cases program with
  | error fault =>
    constructor
    · intro impossible
      cases impossible
    · rintro ⟨_, impossible, _⟩
      cases impossible
  | ok first =>
    constructor
    · exact fun rest => ⟨first, rfl, rest⟩
    · rintro ⟨_, same, rest⟩
      cases same
      exact rest

theorem map_eq_ok {program : Except ε α} {change : α → β} {value : β} :
    change <$> program = .ok value ↔ ∃ first, program = .ok first ∧ change first = value := by
  cases program with
  | error fault =>
    constructor
    · intro impossible
      cases impossible
    · rintro ⟨_, impossible, _⟩
      cases impossible
  | ok first =>
    constructor
    · exact fun same => ⟨first, rfl, Except.ok.inj same⟩
    · rintro ⟨_, same, rfl⟩
      cases same
      rfl

theorem mapError_eq_ok {ε' : Type} {program : Except ε α} {change : ε → ε'} {value : α} :
    program.mapError change = .ok value ↔ program = .ok value := by
  cases program with
  | error fault =>
    constructor
    all_goals
      intro impossible
      cases impossible
  | ok first =>
    constructor
    all_goals
      intro same
      cases same
      rfl

theorem bind_eq_error {program : Except ε α} {next : α → Except ε β} {fault : ε} :
    program >>= next = .error fault ↔
      program = .error fault ∨ ∃ first, program = .ok first ∧ next first = .error fault := by
  cases program with
  | error other =>
    constructor
    · exact fun same => Or.inl (congrArg Except.error (Except.error.inj same))
    · rintro (same | ⟨_, impossible, _⟩)
      · exact congrArg Except.error (Except.error.inj same)
      · cases impossible
  | ok first =>
    constructor
    · exact fun rest => Or.inr ⟨first, rfl, rest⟩
    · rintro (impossible | ⟨_, same, rest⟩)
      · cases impossible
      · cases same
        exact rest

theorem mapError_eq_error {ε' : Type} {program : Except ε α} {change : ε → ε'} {fault : ε'} :
    program.mapError change = .error fault ↔ ∃ first, program = .error first ∧ change first = fault := by
  cases program with
  | error first =>
    constructor
    · exact fun same => ⟨first, rfl, Except.error.inj same⟩
    · rintro ⟨_, same, rfl⟩
      cases same
      rfl
  | ok value =>
    constructor
    · intro impossible
      cases impossible
    · rintro ⟨_, impossible, _⟩
      cases impossible

theorem toOption_ok (value : α) : (.ok value : Except ε α).toOption = some value := rfl

theorem toOption_bind {program : Except ε α} {next : α → Except ε β} :
    (program >>= next).toOption = program.toOption.bind fun value => (next value).toOption := by
  cases program <;> rfl

theorem toOption_mapError {ε' : Type} {program : Except ε α} {change : ε → ε'} :
    (program.mapError change).toOption = program.toOption := by
  cases program <;> rfl

theorem toOption_eq_some {program : Except ε α} {value : α} : program.toOption = some value ↔ program = .ok value := by
  cases program with
  | error fault =>
    constructor
    all_goals
      intro impossible
      cases impossible
  | ok first =>
    constructor
    · exact fun same => congrArg Except.ok (Option.some.inj same)
    · exact fun same => congrArg some (Except.ok.inj same)

end ApiStyle
