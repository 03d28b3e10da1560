import Walkthrough.Diagnostics.Entry

/-!
# Dialogues

A dialogue is a program that talks to one person: it says something, makes sure that it is seen,
listens for a line, or notes down what happened, until it is done or gives up.  What it does on a
console is in `Walkthrough.Dialogue.Performance`.
-/

namespace Walkthrough

/-- A program that talks, with a result. -/
inductive Dialogue (α : Type) where
  | done (result : α)
  | fail (interruption : Interruption)
  | note (entry : Diagnostics.Entry) (next : Dialogue α)
  | say (text : String) (next : Dialogue α)
  | flush (next : Dialogue α)
  | listen (next : String → Dialogue α)

namespace Dialogue

variable {α β γ : Type}

/-- Hold one dialogue and then the one that its result leads to. -/
def bind : Dialogue α → (α → Dialogue β) → Dialogue β
  | done result, f => f result
  | fail interruption, _ => fail interruption
  | note entry next, f => note entry (next.bind f)
  | say text next, f => say text (next.bind f)
  | flush next, f => flush (next.bind f)
  | listen next, f => listen fun line => (next line).bind f

instance : Monad Dialogue where
  pure := done
  bind := bind

@[simp]
theorem pure_eq (result : α) : (pure result : Dialogue α) = done result := rfl

@[simp]
theorem bind_eq (dialogue : Dialogue α) (f : α → Dialogue β) :
    dialogue >>= f = dialogue.bind f := rfl

@[simp]
theorem bind_done (dialogue : Dialogue α) : dialogue.bind done = dialogue := by
  induction dialogue <;> simp_all [bind]

theorem bind_assoc (dialogue : Dialogue α) (f : α → Dialogue β) (g : β → Dialogue γ) :
    (dialogue.bind f).bind g = dialogue.bind fun a => (f a).bind g := by
  induction dialogue <;> simp_all [bind]

instance : LawfulMonad Dialogue :=
  LawfulMonad.mk' Dialogue bind_done (fun _ _ => rfl) bind_assoc

/-- Say a text and a newline. -/
def sayLine (text : String) : Dialogue Unit :=
  say (text ++ "\n") (done ())

/-- Say some lines. -/
def sayLines (lines : List String) : Dialogue Unit :=
  lines.forM sayLine

/-- Note down what happened. -/
def report (entry : Diagnostics.Entry) : Dialogue Unit :=
  note entry (done ())

/-- Say a question without a newline, make sure that it is seen, and listen for the answer. -/
def ask (question : String) : Dialogue String :=
  say question (flush (listen done))

end Dialogue

end Walkthrough
