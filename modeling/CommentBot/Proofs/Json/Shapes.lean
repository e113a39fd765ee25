import CommentBot.Proofs.Json.Values
import Mathlib.Data.List.Forall2

/-!
# The shapes of records

A record is described by its parts: each has a name, a condition on its value, and a condition under which it may
be left out (`Part`). `Shaped` says that a value has these parts, as the members of an object in any order and
with others between them, or as the items of an array.

A part can stand for several others, any of which may be met (`Part.Covers`). By `shaped_iff_of_covers`, a value
has the parts that stand for others if it has one for each of them.
-/

namespace CommentBot.Json

/-! ## Values without faults -/

/-- There is no fault in the value or any of its parts. -/
inductive Node.Whole : Node → Prop
  | scalar {s : Scalar} (h : s.fault? = none) : Whole (.scalar s)
  | array {ns : List Node} (h : ∀ n ∈ ns, Whole n) : Whole (.array ns none)
  | object {ms : List (Key × Node)} (h : ∀ m ∈ ms, Whole m.2) : Whole (.object ms none)

theorem Node.Whole.fault? {n : Node} (h : n.Whole) : n.fault? = none := by
  cases h with
  | scalar h => exact h
  | array h => rfl
  | object h => rfl

theorem Node.Whole.pass {n : Node} (h : n.Whole) : n.pass = .ok () := by
  have hfault := h.fault?
  unfold Node.pass
  split
  · cases hfault
  · rw [hfault]

/-- No value in the phrase has a fault. -/
def Phrase.Whole : Phrase → Prop
  | value n => n.Whole
  | padded n => n.Whole
  | items ns => ∀ n ∈ ns, n.Whole
  | members ms => ∀ m ∈ ms, m.2.Whole

theorem Phrase.Written.whole {p : Phrase} {t : List UInt8} (h : p.Written t) : p.Whole := by
  induction h with
  | scalar h => exact .scalar (by cases h <;> rfl)
  | emptyArray h => exact .array (by nofun)
  | array h ih => exact .array ih
  | emptyObject h => exact .object (by nofun)
  | object h ih => exact .object ih
  | padded hbefore h hafter ih => exact ih
  | lastItem h ih => exact List.forall_mem_singleton.2 ih
  | item h hmore ih ihmore => exact List.forall_mem_cons.2 ⟨ih, ihmore⟩
  | lastMember hkey h ih => exact List.forall_mem_singleton.2 ih
  | member hkey h hmore ih ihmore => exact List.forall_mem_cons.2 ⟨ih, ihmore⟩

/-! ## Shapes -/

/-- A part of a record. -/
structure Part where
  name : String
  /-- What the value must be. -/
  holds : Node → Prop
  /-- When an object may lack the part. -/
  absent : Prop

/-- The members of an object, with the names that their keys spell. -/
def Keyed (members : List (Key × Node)) (entries : List (String × Node)) : Prop :=
  List.Forall₂ (fun m e => Named e.1 m.1 ∧ m.2 = e.2) members entries

/-- One member has the name, and its value is `n`. -/
def Sole (entries : List (String × Node)) (name : String) (n : Node) : Prop :=
  entries.filter (·.1 = name) = [(name, n)]

/-- No member has the name. -/
def Lacks (entries : List (String × Node)) (name : String) : Prop := ∀ e ∈ entries, e.1 ≠ name

/-- The part stands among the members, once, or may be missing and is. -/
def Part.Stands (p : Part) (entries : List (String × Node)) : Prop :=
  (∃ n, Sole entries p.name n ∧ p.holds n) ∨ (p.absent ∧ Lacks entries p.name)

/-- The value has the parts. Members of an object may come in any order, and there may be others. If `arrays`,
the parts may also be the items of an array, in their order and none of them missing. -/
def Shaped (arrays : Prop) (parts : List Part) (n : Node) : Prop :=
  (∃ members entries, n = .object members none ∧ Keyed members entries ∧ ∀ p ∈ parts, p.Stands entries) ∨
    (arrays ∧ ∃ items, n = .array items none ∧ List.Forall₂ Part.holds parts items)

/-- Where the part `p` may stand, `q` may. -/
structure Part.Gives (p q : Part) : Prop where
  name : p.name = q.name
  holds : ∀ n, p.holds n → q.holds n
  absent : p.absent → q.absent

theorem Part.Gives.refl (p : Part) : p.Gives p := ⟨rfl, fun _ h => h, id⟩

theorem Part.Stands.mono {p q : Part} (h : p.Gives q) {entries : List (String × Node)}
    (hp : p.Stands entries) : q.Stands entries := by
  unfold Part.Stands at hp ⊢
  rw [h.name] at hp
  rcases hp with ⟨n, hsole, hn⟩ | ⟨habsent, hlacks⟩
  · exact .inl ⟨n, hsole, h.holds n hn⟩
  · exact .inr ⟨h.absent habsent, hlacks⟩

/-- Parts that give other parts, in an object. -/
theorem stands_mono {ps qs : List Part} (h : List.Forall₂ Part.Gives ps qs) {entries : List (String × Node)}
    (hps : ∀ p ∈ ps, p.Stands entries) : ∀ q ∈ qs, q.Stands entries := by
  induction h with
  | nil => exact hps
  | cons hgives _ ih =>
    obtain ⟨hfirst, hrest⟩ := List.forall_mem_cons.1 hps
    exact List.forall_mem_cons.2 ⟨hfirst.mono hgives, ih hrest⟩

/-- Parts that give other parts, in an array. -/
theorem holds_mono {ps qs : List Part} (h : List.Forall₂ Part.Gives ps qs) {items : List Node}
    (hitems : List.Forall₂ Part.holds ps items) : List.Forall₂ Part.holds qs items := by
  induction h generalizing items with
  | nil => exact hitems
  | cons hgives _ ih =>
    cases hitems with
    | cons hfirst hrest => exact .cons (hgives.holds _ hfirst) (ih hrest)

/-- A shape gives another one if its parts do. -/
theorem Shaped.mono {arrays arrays' : Prop} {ps qs : List Part} {n : Node} (hs : Shaped arrays ps n)
    (ha : arrays → arrays') (h : List.Forall₂ Part.Gives ps qs) : Shaped arrays' qs n := by
  rcases hs with ⟨members, entries, rfl, hkeyed, hstands⟩ | ⟨hyes, items, rfl, hitems⟩
  · exact .inl ⟨members, entries, rfl, hkeyed, stands_mono h hstands⟩
  · exact .inr ⟨ha hyes, items, rfl, holds_mono h hitems⟩

theorem Shaped.not_isNull {arrays : Prop} {parts : List Part} {n : Node} (h : Shaped arrays parts n) :
    ¬ n.IsNull := by
  rcases h with ⟨members, entries, rfl, -⟩ | ⟨-, items, rfl, -⟩ <;> nofun

/-! ### A part in place of others -/

theorem whole_of_keyed {members : List (Key × Node)} {entries : List (String × Node)}
    (h : Keyed members entries) (hwhole : ∀ m ∈ members, m.2.Whole) : ∀ e ∈ entries, e.2.Whole := by
  induction h with
  | nil => nofun
  | cons hm _ ih =>
    obtain ⟨hfirst, hrest⟩ := List.forall_mem_cons.1 hwhole
    exact List.forall_mem_cons.2 ⟨hm.2 ▸ hfirst, ih hrest⟩

theorem mem_of_sole {entries : List (String × Node)} {name : String} {n : Node} (h : Sole entries name n) :
    (name, n) ∈ entries := by
  have hmem : (name, n) ∈ entries.filter (·.1 = name) := by rw [h]; exact List.mem_singleton.2 rfl
  exact (List.mem_filter.1 hmem).1

/-- The part may stand where one of the others may, as far as values without faults go. -/
structure Part.Covers (q : Part) (others : Part → Prop) : Prop where
  name : ∀ p, others p → p.name = q.name
  holds : ∀ n, n.Whole → (q.holds n ↔ ∃ p, others p ∧ p.holds n)
  absent : q.absent ↔ ∃ p, others p ∧ p.absent

/-- One part for each group of others. -/
def Choice (groups : List (Part → Prop)) (ps : List Part) : Prop :=
  List.Forall₂ (fun others p => others p) groups ps

theorem Part.Covers.stands {q : Part} {others : Part → Prop} (h : q.Covers others)
    {entries : List (String × Node)} (hwhole : ∀ e ∈ entries, e.2.Whole) :
    q.Stands entries ↔ ∃ p, others p ∧ p.Stands entries := by
  constructor
  · rintro (⟨n, hsole, hn⟩ | ⟨habsent, hlacks⟩)
    · obtain ⟨p, hp, hpn⟩ := (h.holds n (hwhole _ (mem_of_sole hsole))).1 hn
      exact ⟨p, hp, .inl ⟨n, h.name p hp ▸ hsole, hpn⟩⟩
    · obtain ⟨p, hp, hpabsent⟩ := h.absent.1 habsent
      exact ⟨p, hp, .inr ⟨hpabsent, h.name p hp ▸ hlacks⟩⟩
  · rintro ⟨p, hp, ⟨n, hsole, hn⟩ | ⟨habsent, hlacks⟩⟩
    · exact .inl ⟨n, h.name p hp ▸ hsole, (h.holds n (hwhole _ (mem_of_sole hsole))).2 ⟨p, hp, hn⟩⟩
    · exact .inr ⟨h.absent.2 ⟨p, hp, habsent⟩, h.name p hp ▸ hlacks⟩

theorem stands_iff_of_covers {qs : List Part} {groups : List (Part → Prop)}
    (h : List.Forall₂ Part.Covers qs groups) {entries : List (String × Node)}
    (hwhole : ∀ e ∈ entries, e.2.Whole) :
    (∀ q ∈ qs, q.Stands entries) ↔ ∃ ps, Choice groups ps ∧ ∀ p ∈ ps, p.Stands entries := by
  induction h with
  | nil =>
    constructor
    · intro _
      exact ⟨[], .nil, by nofun⟩
    · intro _
      nofun
  | cons hcovers _ ih =>
    rw [List.forall_mem_cons, ih, hcovers.stands hwhole]
    constructor
    · rintro ⟨⟨p, hp, hstands⟩, ps, hps, hall⟩
      exact ⟨p :: ps, .cons hp hps, List.forall_mem_cons.2 ⟨hstands, hall⟩⟩
    · rintro ⟨_, hchoice, hall⟩
      cases hchoice with
      | cons hp hps =>
        obtain ⟨hstands, hall⟩ := List.forall_mem_cons.1 hall
        exact ⟨⟨_, hp, hstands⟩, _, hps, hall⟩

theorem holds_iff_of_covers {qs : List Part} {groups : List (Part → Prop)}
    (h : List.Forall₂ Part.Covers qs groups) {items : List Node} (hwhole : ∀ n ∈ items, n.Whole) :
    List.Forall₂ Part.holds qs items ↔ ∃ ps, Choice groups ps ∧ List.Forall₂ Part.holds ps items := by
  induction h generalizing items with
  | nil =>
    constructor
    · intro hitems
      exact ⟨[], .nil, hitems⟩
    · rintro ⟨_, hchoice, hitems⟩
      cases hchoice
      exact hitems
  | cons hcovers _ ih =>
    constructor
    · intro hitems
      cases hitems with
      | cons hfirst hrest =>
        obtain ⟨hw, hws⟩ := List.forall_mem_cons.1 hwhole
        obtain ⟨p, hp, hpn⟩ := (hcovers.holds _ hw).1 hfirst
        obtain ⟨ps, hps, hall⟩ := (ih hws).1 hrest
        exact ⟨p :: ps, .cons hp hps, .cons hpn hall⟩
    · rintro ⟨_, hchoice, hitems⟩
      cases hchoice with
      | cons hp hps =>
        cases hitems with
        | cons hfirst hrest =>
          obtain ⟨hw, hws⟩ := List.forall_mem_cons.1 hwhole
          exact .cons ((hcovers.holds _ hw).2 ⟨_, hp, hfirst⟩) ((ih hws).2 ⟨_, hps, hrest⟩)

/-- A value has parts that cover others if it has a choice of these. -/
theorem shaped_iff_of_covers {qs : List Part} {groups : List (Part → Prop)}
    (h : List.Forall₂ Part.Covers qs groups) {arrays : Prop} {n : Node} (hn : n.Whole) :
    Shaped arrays qs n ↔ ∃ ps, Choice groups ps ∧ Shaped arrays ps n := by
  constructor
  · rintro (⟨members, entries, rfl, hkeyed, hstands⟩ | ⟨hyes, items, rfl, hitems⟩)
    · cases hn with
      | object hwhole =>
        obtain ⟨ps, hps, hall⟩ := (stands_iff_of_covers h (whole_of_keyed hkeyed hwhole)).1 hstands
        exact ⟨ps, hps, .inl ⟨members, entries, rfl, hkeyed, hall⟩⟩
    · cases hn with
      | array hwhole =>
        obtain ⟨ps, hps, hall⟩ := (holds_iff_of_covers h hwhole).1 hitems
        exact ⟨ps, hps, .inr ⟨hyes, items, rfl, hall⟩⟩
  · rintro ⟨ps, hps, ⟨members, entries, rfl, hkeyed, hstands⟩ | ⟨hyes, items, rfl, hitems⟩⟩
    · cases hn with
      | object hwhole =>
        exact .inl ⟨members, entries, rfl, hkeyed,
          (stands_iff_of_covers h (whole_of_keyed hkeyed hwhole)).2 ⟨ps, hps, hstands⟩⟩
    · cases hn with
      | array hwhole => exact .inr ⟨hyes, items, rfl, (holds_iff_of_covers h hwhole).2 ⟨ps, hps, hitems⟩⟩

end CommentBot.Json
