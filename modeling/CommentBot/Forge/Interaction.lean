import CommentBot.Forge.ApiError
import CommentBot.Forge.Response

/-!
# Interactions

A program that asks a forge, as data: it is done, or it asks an effect and goes on with the answer. A gateway
answers effects; it may remember what it was asked.
-/

namespace CommentBot.Forge

/-- What becomes of an effect. -/
abbrev Answer := Except ApiError Response

/-- A program that asks effects and ends with a value. -/
inductive Interaction (α : Type)
  | done (a : α)
  | ask (effect : Effect) (next : Answer → Interaction α)

/-- Answers effects, with a state of its own. -/
abbrev Gateway (σ : Type) := Effect → σ → Answer × σ

namespace Interaction

variable {α β σ : Type}

/-- Goes on with another program. -/
protected def bind : Interaction α → (α → Interaction β) → Interaction β
  | done a, f => f a
  | ask effect next, f => ask effect fun answer => (next answer).bind f

instance : Monad Interaction where
  pure := done
  bind := Interaction.bind

/-- Asks one effect. -/
def perform (effect : Effect) : Interaction Answer := ask effect done

/-- Lets a gateway answer. -/
def run (gateway : Gateway σ) : Interaction α → σ → α × σ
  | done a, s => (a, s)
  | ask effect next, s => (next (gateway effect s).1).run gateway (gateway effect s).2

@[simp] theorem run_done (gateway : Gateway σ) (a : α) (s : σ) : (done a).run gateway s = (a, s) := rfl

@[simp] theorem run_ask (gateway : Gateway σ) (effect : Effect) (next : Answer → Interaction α) (s : σ) :
    (ask effect next).run gateway s = (next (gateway effect s).1).run gateway (gateway effect s).2 := rfl

@[simp] theorem run_bind (gateway : Gateway σ) (p : Interaction α) (f : α → Interaction β) (s : σ) :
    (p.bind f).run gateway s = (f (p.run gateway s).1).run gateway (p.run gateway s).2 := by
  induction p generalizing s with
  | done a => rfl
  | ask effect next ih => exact ih _ _

end Interaction

/-- A gateway that also keeps the effects it was asked, the last one first. -/
def Gateway.recorded {σ : Type} (gateway : Gateway σ) : Gateway (σ × List Effect) :=
  fun effect s => ((gateway effect s.1).1, ((gateway effect s.1).2, effect :: s.2))

/-- A gateway that gives prepared answers in order, and an error when there are none left. -/
def Gateway.scripted (exhausted : ApiError) : Gateway (List Answer)
  | _, [] => (.error exhausted, [])
  | _, answer :: rest => (answer, rest)

end CommentBot.Forge
