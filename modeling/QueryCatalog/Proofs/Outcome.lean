/-! Where answers that are mapped come from, and where a chain of readings goes on. -/
namespace QueryCatalog

variable {α β ε δ : Type}

theorem ok_of_map {x : Except ε α} {f : α → β} {b : β} (h : x.map f = .ok b) :
    ∃ a, x = .ok a ∧ f a = b := by
  cases x with
  | error error => cases h
  | ok a => exact ⟨a, rfl, Except.ok.inj h⟩

/-- An answer that is mapped, and whose failure is told in another way, comes from an answer. -/
theorem ok_of_map_mapError {x : Except ε α} {f : α → β} {g : ε → δ} {b : β}
    (h : (x.map f).mapError g = .ok b) : ∃ a, x = .ok a ∧ f a = b := by
  cases x with
  | error e => cases h
  | ok a => exact ⟨a, rfl, Except.ok.inj h⟩

theorem bind_of_some {o : Option α} {f : α → Option β} {a : α} {b : Option β} (h : o = some a)
    (hf : f a = b) : (o >>= f) = b := by
  rw [h]
  exact hf

end QueryCatalog
