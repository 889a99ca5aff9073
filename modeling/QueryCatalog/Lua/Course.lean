import QueryCatalog.Lua.Heap

/-!
The course of running code, up to what `sp` does. Code fails, comes to an end, or calls `sp`, and
after a call it goes on in the state that `sp` leaves or with the fault of `sp`. What code knows
beside the state is part of how it goes on.
-/
namespace QueryCatalog.Lua

inductive Course (α : Type) where
  | fault (f : Fault)
  | done (result : α) (s : State)
  | call (v : Value) (s : State) (next : Except Fault State → Course α)

namespace Course

variable {α β : Type}

def bind (c : Course α) (f : α → State → Course β) : Course β :=
  match c with
  | .fault f => .fault f
  | .done a s => f a s
  | .call v s next => .call v s fun answer => (next answer).bind f

/-- Answers the calls one after the other until the course ends. -/
def run (sp : Value → State → Except Fault State) : Course α → Except Fault (α × State)
  | .fault f => .error f
  | .done a s => .ok (a, s)
  | .call v s next => (next (sp v s)).run sp

end Course

/-- Code that gives a result. -/
def Run (α : Type) : Type := State → Course α

instance : Monad Run where
  pure a := fun s => .done a s
  bind x f := fun s => (x s).bind f

instance : MonadStateOf State Run where
  get := fun s => .done s s
  set s := fun _ => .done ⟨⟩ s
  modifyGet f := fun s =>
    let (a, s) := f s
    .done a s

def fail {α : Type} (fault : Fault) : Run α := fun _ => .fault fault

/-- A call of `sp`, which may fail. -/
def callSp (v : Value) : Run Unit := fun s => .call v s fun answer =>
  match answer with
  | .ok s => .done () s
  | .error f => .fault f

end QueryCatalog.Lua
