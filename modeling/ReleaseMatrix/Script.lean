import ReleaseMatrix.Files

/-!
# Scripts

A script is a computation that may read files, look up variables of the environment and write
output, and that ends in a value or an error. It is a tree: where it reads a file or looks up a
variable, it goes on according to what that gives. So one script can be carried out in the world and
also run on given surroundings, which yields its output and its result. Both ways go through bind
step by step, so a sequence of scripts runs as the sequence of its runs.
-/

namespace ReleaseMatrix

/-- What a script finds around it. -/
structure Surroundings where
  /-- The files. -/
  files : Files
  /-- The values of the variables of the environment. -/
  environment : String → Option String

/-- A computation that may read files, look up variables and write output. -/
inductive Script (ε α : Type) where
  /-- Ends in a value. -/
  | done (value : α)
  /-- Ends in an error. -/
  | fail (error : ε)
  /-- Reads a file and goes on with what that gives. -/
  | read (path : String) (next : Except ReadError String → Script ε α)
  /-- Looks up a variable of the environment and goes on with its value, if it has one. -/
  | lookUp (name : String) (next : Option String → Script ε α)
  /-- Writes output and goes on. -/
  | write (text : String) (next : Script ε α)

namespace Script

variable {ε α β : Type}

/-- One script after another, which goes on from the value of the first. -/
def bind : Script ε α → (α → Script ε β) → Script ε β
  | .done a, f => f a
  | .fail e, _ => .fail e
  | .read path next, f => .read path fun r => (next r).bind f
  | .lookUp name next, f => .lookUp name fun value? => (next value?).bind f
  | .write text next, f => .write text (next.bind f)

instance : Monad (Script ε) where
  pure := .done
  bind := .bind

/-- The script with other errors. -/
def mapError {ε' : Type} (f : ε → ε') : Script ε α → Script ε' α
  | .done a => .done a
  | .fail e => .fail (f e)
  | .read path next => .read path fun r => (next r).mapError f
  | .lookUp name next => .lookUp name fun value? => (next value?).mapError f
  | .write text next => .write text (next.mapError f)

/-- Ends in the value or the error of a result. -/
def ofExcept : Except ε α → Script ε α
  | .ok a => .done a
  | .error e => .fail e

/-- The text of a file, or an error made of the reason why it cannot be read. -/
def readFile (path : String) (error : ReadError → ε) : Script ε String :=
  .read path fun
    | .ok text => .done text
    | .error e => .fail (error e)

/-- Writes a text. -/
def put (text : String) : Script ε Unit := .write text (.done ())

/-- The output and the result of a script in given surroundings. -/
def run (around : Surroundings) : Script ε α → String × Except ε α
  | .done a => ("", .ok a)
  | .fail e => ("", .error e)
  | .read path next => (next (around.files path)).run around
  | .lookUp name next => (next (around.environment name)).run around
  | .write text next => let (output, result) := next.run around; (text ++ output, result)

/-- The result of a script in given surroundings. -/
def result (around : Surroundings) (s : Script ε α) : Except ε α := (s.run around).2

/-- The output of a script in given surroundings. -/
def output (around : Surroundings) (s : Script ε α) : String := (s.run around).1

/-! ### How scripts run -/

theorem bind_def (s : Script ε α) (f : α → Script ε β) : s >>= f = s.bind f := rfl

theorem pure_def (a : α) : (Pure.pure a : Script ε α) = .done a := rfl

@[simp] theorem bind_done (s : Script ε α) : s.bind .done = s := by
  induction s with
  | done a => rfl
  | fail e => rfl
  | read path next ih => simp [bind, ih]
  | lookUp name next ih => simp [bind, ih]
  | write text next ih => simp [bind, ih]

theorem bind_assoc {γ : Type} (s : Script ε α) (f : α → Script ε β) (g : β → Script ε γ) :
    (s.bind f).bind g = s.bind fun a => (f a).bind g := by
  induction s with
  | done a => rfl
  | fail e => rfl
  | read path next ih => simp [bind, ih]
  | lookUp name next ih => simp [bind, ih]
  | write text next ih => simp [bind, ih]

instance : LawfulMonad (Script ε) := .mk' _ bind_done (fun _ _ => rfl) bind_assoc

/-- A sequence of scripts runs as the sequence of its runs. -/
theorem run_bind (around : Surroundings) (s : Script ε α) (f : α → Script ε β) :
    (s >>= f).run around =
      match s.run around with
      | (output, .error e) => (output, .error e)
      | (output, .ok a) => (output ++ ((f a).run around).1, ((f a).run around).2) := by
  rw [bind_def]
  induction s with
  | done a => simp [bind, run]
  | fail e => simp [bind, run]
  | read path next ih => simp only [bind, run, ih]
  | lookUp name next ih => simp only [bind, run, ih]
  | write text next ih =>
    simp only [bind, run, ih]
    generalize next.run around = r
    obtain ⟨output, result⟩ := r
    cases result <;> simp [String.append_assoc]

/-- A sequence of scripts has a value if both have one. -/
theorem result_bind_eq_ok_iff {around : Surroundings} {s : Script ε α} {f : α → Script ε β}
    {b : β} : (s >>= f).result around = .ok b ↔
      ∃ a, s.result around = .ok a ∧ (f a).result around = .ok b := by
  simp only [result, run_bind]
  generalize s.run around = r
  obtain ⟨output, result⟩ := r
  cases result <;> simp

@[simp] theorem run_put (around : Surroundings) (text : String) :
    (put text : Script ε Unit).run around = (text, .ok ()) := by
  simp [put, run]

@[simp] theorem run_ofExcept (around : Surroundings) (r : Except ε α) :
    (ofExcept r).run around = ("", r) := by
  cases r <;> rfl

@[simp] theorem run_readFile (around : Surroundings) (path : String) (error : ReadError → ε) :
    (readFile path error).run around = ("", (around.files path).mapError error) := by
  rw [readFile, run]
  cases around.files path <;> rfl

@[simp] theorem result_ofExcept (around : Surroundings) (r : Except ε α) :
    (ofExcept r).result around = r := by
  rw [result, run_ofExcept]

@[simp] theorem result_readFile (around : Surroundings) (path : String) (error : ReadError → ε) :
    (readFile path error).result around = (around.files path).mapError error := by
  rw [result, run_readFile]

/-- Other errors do not change the output. -/
@[simp] theorem run_mapError {ε' : Type} (around : Surroundings) (s : Script ε α) (f : ε → ε') :
    (s.mapError f).run around = ((s.run around).1, (s.run around).2.mapError f) := by
  induction s with
  | done a => rfl
  | fail e => rfl
  | read path next ih => exact ih _
  | lookUp name next ih => exact ih _
  | write text next ih => simp only [mapError, run, ih]

end Script

end ReleaseMatrix
