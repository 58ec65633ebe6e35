/-!
# Outcomes

Steps that can fail succeed one after another exactly if each of them does.
-/

namespace SeriesIndex

/-- The outcome is a fault of one kind or a value of another. -/
def Meets {α ε : Type} (failed : ε → Prop) (given : α → Prop) : Except ε α → Prop
  | .error fault => failed fault
  | .ok value => given value

theorem bind_ok {α β ε : Type} {made : Except ε α} {next : α → Except ε β} {result : β} :
    (made >>= next) = .ok result ↔ ∃ value, made = .ok value ∧ next value = .ok result := by
  cases made with
  | error fault =>
      constructor
      · intro impossible
        cases impossible
      · rintro ⟨_, impossible, _⟩
        cases impossible
  | ok value =>
      constructor
      · exact fun same => ⟨value, rfl, same⟩
      · rintro ⟨_, ⟨⟩, same⟩
        exact same

theorem map_ok {α β ε : Type} {made : Except ε α} {change : α → β} {result : β} :
    made.map change = .ok result ↔ ∃ value, made = .ok value ∧ change value = result := by
  cases made with
  | error fault => simp [Except.map]
  | ok value => simp [Except.map]

theorem map_error {α β ε : Type} {made : Except ε α} {change : α → β} {fault : ε} :
    made.map change = .error fault ↔ made = .error fault := by
  cases made with
  | error fault => simp [Except.map]
  | ok value => simp [Except.map]

theorem toOption_eq_some {α ε : Type} {made : Except ε α} {value : α} :
    made.toOption = some value ↔ made = .ok value := by
  cases made with
  | error fault => simp [Except.toOption]
  | ok other => simp [Except.toOption]

theorem bind_error {α β ε : Type} {made : Except ε α} {fault : ε} (failed : made = .error fault)
    (next : α → Except ε β) : (made >>= next) = .error fault := by
  rw [failed]
  rfl

end SeriesIndex
