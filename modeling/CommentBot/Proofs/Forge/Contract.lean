import CommentBot.Forge.Interaction

/-!
# Contracts of interactions

A contract says which effects a program may ask after which exchanges, and what it may end with. A program
meets it whatever it is answered (`Interaction.Meets`), so a contract speaks of every gateway at once.

`Meets.bind`: contracts of programs that go on with another program. `Underway.step` and `Underway.run`: a
contract is kept by each answer, and so by a whole run.
-/

namespace CommentBot.Forge

/-! ## Answers of a shape -/

/-- The answer of a shape that holds `payload`. -/
def Shape.response : (shape : Shape) → shape.Payload → Response
  | ref, r => .ref r
  | tree, id => .tree id
  | commit, c => .commit c
  | pullRequest, p => .pullRequest p
  | commentPosted, id => .commentPosted id

@[simp] theorem Shape.shape_response (shape : Shape) (payload : shape.Payload) :
    (shape.response payload).shape = shape := by
  cases shape <;> rfl

@[simp] theorem Response.as?_response (shape : Shape) (payload : shape.Payload) :
    (shape.response payload).as? shape = some payload := by
  cases shape <;> rfl

theorem Response.eq_response_of_as? {r : Response} {shape : Shape} {payload : shape.Payload}
    (h : r.as? shape = some payload) : r = shape.response payload := by
  cases r <;> cases shape <;> cases h <;> rfl

theorem Response.shape_ne_of_as? {r : Response} {shape : Shape} (h : r.as? shape = none) :
    r.shape ≠ shape := by
  intro e
  have := r.isSome_as? shape
  rw [h, e] at this
  simp at this

/-! ## Exchanges -/

/-- An effect that was asked, with the answer. -/
structure Exchange where
  effect : Effect
  answer : Answer

/-- The answer has the shape that belongs to the effect. -/
def Exchange.Answered (x : Exchange) : Prop :=
  ∃ response, x.answer = .ok response ∧ response.shape = x.effect.kind.shape

namespace Interaction

variable {α β σ : Type}

/-- The exchanges of a run with a gateway, in order. -/
def exchanges (gateway : Gateway σ) : Interaction α → σ → List Exchange
  | done _, _ => []
  | ask effect next, s =>
    ⟨effect, (gateway effect s).1⟩ :: (next (gateway effect s).1).exchanges gateway (gateway effect s).2

@[simp] theorem exchanges_done (gateway : Gateway σ) (a : α) (s : σ) :
    (done a).exchanges gateway s = [] := rfl

@[simp] theorem exchanges_ask (gateway : Gateway σ) (effect : Effect) (next : Answer → Interaction α)
    (s : σ) : (ask effect next).exchanges gateway s =
      ⟨effect, (gateway effect s).1⟩ ::
        (next (gateway effect s).1).exchanges gateway (gateway effect s).2 := rfl

/-- The exchanges of a program come before those of the program it goes on with. -/
theorem exchanges_bind (gateway : Gateway σ) (p : Interaction α) (f : α → Interaction β) (s : σ) :
    (p.bind f).exchanges gateway s =
      p.exchanges gateway s ++ (f (p.run gateway s).1).exchanges gateway (p.run gateway s).2 := by
  induction p generalizing s with
  | done a => rfl
  | ask effect next ih =>
    rw [exchanges_ask, List.cons_append, run_ask, ← ih]
    rfl

/-- The exchanges are those that a recording gateway keeps, the last one first. -/
theorem run_recorded (gateway : Gateway σ) (p : Interaction α) (s : σ) (log : List Effect) :
    p.run gateway.recorded (s, log) = ((p.run gateway s).1,
      ((p.run gateway s).2, ((p.exchanges gateway s).map (·.effect)).reverse ++ log)) := by
  induction p generalizing s log with
  | done a => rfl
  | ask effect next ih =>
    rw [run_ask, run_ask, exchanges_ask, List.map_cons, List.reverse_cons, List.append_assoc]
    exact ih _ _ _

end Interaction

/-! ## Contracts -/

/-- What a program may ask after some exchanges, and what it may end with. -/
structure Contract (α : Type) where
  asks : List Exchange → Effect → Prop
  ends : List Exchange → α → Prop

namespace Interaction

variable {α β σ : Type}

/-- After the exchanges `past` the program keeps to the contract, whatever it is answered. -/
def Meets (c : Contract α) : Interaction α → List Exchange → Prop
  | done a, past => c.ends past a
  | ask effect next, past =>
    c.asks past effect ∧ ∀ answer, (next answer).Meets c (past ++ [⟨effect, answer⟩])

namespace Meets

variable {c : Contract α} {p : Interaction α} {past : List Exchange}

/-- A program that goes on with another one meets a contract if both keep to what may be asked and the
first one ends where the second one may begin. -/
theorem bind {asks : List Exchange → Effect → Prop} {middle : List Exchange → α → Prop}
    {ends : List Exchange → β → Prop} {f : α → Interaction β} (h : p.Meets ⟨asks, middle⟩ past)
    (hf : ∀ past a, middle past a → (f a).Meets ⟨asks, ends⟩ past) :
    (p.bind f).Meets ⟨asks, ends⟩ past := by
  induction p generalizing past with
  | done a => exact hf past a h
  | ask effect next ih => exact ⟨h.1, fun answer => ih answer (h.2 answer)⟩

end Meets

/-- What is left of a program after the exchanges `past`, which kept to the contract as what is left does. -/
structure Underway (c : Contract α) (past : List Exchange) (p : Interaction α) : Prop where
  meets : p.Meets c past
  asked : ∀ {before x after}, past = before ++ x :: after → c.asks before x.effect

namespace Underway

variable {c : Contract α} {p : Interaction α} {past : List Exchange}

theorem start (h : p.Meets c []) : Underway c [] p where
  meets := h
  asked h := by simp at h

/-- An answer leaves a program underway. -/
theorem step {effect : Effect} {next : Answer → Interaction α} (h : Underway c past (ask effect next))
    (answer : Answer) : Underway c (past ++ [⟨effect, answer⟩]) (next answer) where
  meets := h.meets.2 answer
  asked {before x after} heq := by
    rcases List.eq_nil_or_concat after with rfl | ⟨after, y, rfl⟩
    · obtain ⟨rfl, hx⟩ := List.append_inj' heq rfl
      obtain rfl := (List.cons.inj hx).1
      exact h.meets.1
    · rw [List.concat_eq_append, ← List.cons_append, ← List.append_assoc] at heq
      exact h.asked (List.append_inj' heq rfl).1

/-- A whole run with a gateway keeps to the contract. -/
theorem run (h : Underway c past p) (gateway : Gateway σ) (s : σ) :
    Underway c (past ++ p.exchanges gateway s) (done (p.run gateway s).1) := by
  induction p generalizing past s with
  | done a =>
    rw [exchanges_done, List.append_nil]
    exact h
  | ask effect next ih => simpa using ih _ (h.step _) _

end Underway

end Interaction

end CommentBot.Forge
