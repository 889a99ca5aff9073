/-!
A scanner reads text one character at a time and gives out what it has recognised on the way.
Because a step sees one character only, scanning two halves one after the other is scanning the
whole.
-/
namespace QueryCatalog

structure Scanner (σ τ ε : Type) where
  start : σ
  step : σ → Char → Except ε (σ × List τ)
  finish : σ → Except ε (List τ)

namespace Scanner

variable {σ τ ε : Type}

def run (m : Scanner σ τ ε) (s : σ) : List Char → Except ε (σ × List τ)
  | [] => .ok (s, [])
  | c :: cs =>
    match m.step s c with
    | .error e => .error e
    | .ok (next, out) =>
      match m.run next cs with
      | .error e => .error e
      | .ok (last, rest) => .ok (last, out ++ rest)

def scan (m : Scanner σ τ ε) (cs : List Char) : Except ε (List τ) :=
  match m.run m.start cs with
  | .error e => .error e
  | .ok (last, out) =>
    match m.finish last with
    | .error e => .error e
    | .ok rest => .ok (out ++ rest)

theorem run_append (m : Scanner σ τ ε) (s : σ) (as bs : List Char) :
    m.run s (as ++ bs) =
      match m.run s as with
      | .error e => .error e
      | .ok (mid, out) =>
        match m.run mid bs with
        | .error e => .error e
        | .ok (last, rest) => .ok (last, out ++ rest) := by
  induction as generalizing s with
  | nil => simp only [List.nil_append, run]; split <;> simp_all
  | cons a as ih =>
    simp only [List.cons_append, run]
    cases m.step s a with
    | error e => rfl
    | ok r =>
      obtain ⟨next, out⟩ := r
      simp only [ih]
      cases m.run next as with
      | error e => rfl
      | ok r =>
        obtain ⟨mid, out'⟩ := r
        simp only
        cases m.run mid bs with
        | error e => rfl
        | ok r => simp

variable {m : Scanner σ τ ε} {s mid last : σ} {out rest : List τ}

theorem run_stepped {c : Char} {cs : List Char} (hstep : m.step s c = .ok (mid, out))
    (hrest : m.run mid cs = .ok (last, rest)) : m.run s (c :: cs) = .ok (last, out ++ rest) := by
  rw [run, hstep]
  dsimp only
  rw [hrest]

theorem run_joined {as bs : List Char} (hfirst : m.run s as = .ok (mid, out))
    (hrest : m.run mid bs = .ok (last, rest)) : m.run s (as ++ bs) = .ok (last, out ++ rest) := by
  rw [run_append, hfirst]
  dsimp only
  rw [hrest]

end Scanner

end QueryCatalog
