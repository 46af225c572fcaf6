import HardenAudit.Kernel.Request

/-!
# Courses of action

What a process does with a state of its own: each step may ask the kernel for something, change the
state, and break off for a reason.
-/

namespace HardenAudit.Kernel

/-- Steps with a state that end with a result or break off. -/
def Course (σ ε α : Type) : Type := σ → (Except ε α → σ → Routine) → Routine

namespace Course

variable {σ ε α : Type}

instance : Monad (Course σ ε) where
  pure a := fun s next => next (.ok a) s
  bind m f := fun s next => m s fun r s =>
    match r with
    | .ok a => f a s next
    | .error e => next (.error e) s

instance : MonadStateOf σ (Course σ ε) where
  get := fun s next => next (.ok s) s
  set s := fun _ next => next (.ok ()) s
  modifyGet f := fun s next =>
    let (a, s) := f s
    next (.ok a) s

instance : MonadExceptOf ε (Course σ ε) where
  throw e := fun s next => next (.error e) s
  tryCatch m handle := fun s next => m s fun r s =>
    match r with
    | .ok a => next (.ok a) s
    | .error e => handle e s next

instance : MonadLift Work (Course σ ε) where
  monadLift t := fun s next => t fun a => next (.ok a) s

/-- Asks the kernel for something. -/
def ask (request : Request) : Course σ ε request.Answer := fun s next =>
  .ask request fun a => next (.ok a) s

/-- Gives what became of a part instead of breaking off. -/
def attempt (m : Course σ ε α) : Course σ ε (Except ε α) := fun s next =>
  m s fun r s => next (.ok r) s

/-- Goes on with what became of a part. -/
def resume (r : Except ε α) : Course σ ε α := fun s next => next r s

/-- Runs a part as another process, which ends with the given status, and goes on with the number of
that process. -/
def fork (status : Except ε α → σ → Nat) (child : Course σ ε α) : Course σ ε Nat := fun s next =>
  .fork (child s fun r s => .exit (status r s)) fun pid => next (.ok pid) s

/-- Ends the process. -/
def exit (status : Nat) : Course σ ε α := fun _ _ => .exit status

/-- Repeats a step until it gives a result; `limit` bounds the repetitions. -/
def iterate {τ : Type} [Inhabited α] (step : τ → Course σ ε (τ ⊕ α)) : (limit : Nat) → τ →
    Course σ ε α
  | 0, _ => pure default
  | limit + 1, x => do
    match ← step x with
    | .inl x => iterate step limit x
    | .inr a => pure a

end Course
end HardenAudit.Kernel
