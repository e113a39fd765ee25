import CommentBot.Json.Decoder.Record
import CommentBot.Proofs.Json.Parsing
import CommentBot.Proofs.Json.Shapes

/-!
# What records are read from

Fields mean parts (`Fields.Means`). The combinators of fields add parts up (`Means.field`, `Means.map`,
`Means.seq`), and the sum is that a record is read from the values of its shape.

1. `record_iff_shaped`, `exists_record_iff`: a record, or one of some records, is read from a value if it has the
   parts that cover those of the fields.
2. `readAll_record_iff`: a record is read from a text if it is read from a value of which this is a text.
-/

namespace CommentBot.Json

/-! ## What fields mean -/

namespace Fields

variable {α β : Type}

/-- What the members of an object come to, if those that no field takes are left out. -/
def gather {S : Type} (member : String → Node → S → Option (Except ReadError S)) (slots : S) :
    List (String × Node) → Except ReadError S
  | [] => .ok slots
  | (name, n) :: rest =>
    match member name n slots with
    | some read => do gather member (← read) rest
    | none => gather member slots rest

section Members

variable {S : Type} {member : String → Node → S → Option (Except ReadError S)} {name : String} {n : Node} {slots : S}

theorem gather_cons_of_some {read : Except ReadError S} (h : member name n slots = some read)
    (rest : List (String × Node)) :
    gather member slots ((name, n) :: rest) = read >>= fun slots => gather member slots rest := by
  rw [gather, h]

theorem gather_cons_of_none (h : member name n slots = none) (rest : List (String × Node)) :
    gather member slots ((name, n) :: rest) = gather member slots rest := by
  rw [gather, h]

/-- The members of an object are read if their keys are. -/
theorem members_eq_ok_iff {f : Fields α} {ctx : Context} {slots slots' : f.Slots} {members : List (Key × Node)}
    (hwhole : ∀ m ∈ members, m.2.Whole) : f.members ctx slots members = .ok slots' ↔
      ∃ entries, Keyed members entries ∧ gather (f.member ctx) slots entries = .ok slots' := by
  induction members generalizing slots with
  | nil =>
    constructor
    · intro h
      exact ⟨[], .nil, h⟩
    · rintro ⟨entries, hkeyed, h⟩
      cases hkeyed
      exact h
  | cons m members ih =>
    obtain ⟨key, n⟩ := m
    obtain ⟨hfirst, hrest⟩ := List.forall_mem_cons.1 hwhole
    unfold Fields.members
    rw [bind_eq_ok]
    constructor
    · rintro ⟨name, hname, h⟩
      cases hmember : f.member ctx name n slots with
      | none =>
        rw [hmember] at h
        dsimp only at h
        rw [hfirst.pass] at h
        obtain ⟨entries, hkeyed, hgather⟩ := (ih hrest).1 h
        exact ⟨(name, n) :: entries, .cons ⟨memberName_eq_ok_iff.1 hname, rfl⟩ hkeyed,
          (gather_cons_of_none hmember entries).trans hgather⟩
      | some read =>
        rw [hmember] at h
        obtain ⟨taken, hread, h⟩ := bind_eq_ok.1 h
        obtain ⟨entries, hkeyed, hgather⟩ := (ih hrest).1 h
        exact ⟨(name, n) :: entries, .cons ⟨memberName_eq_ok_iff.1 hname, rfl⟩ hkeyed,
          (gather_cons_of_some hmember entries).trans (bind_eq_ok.2 ⟨taken, hread, hgather⟩)⟩
    · rintro ⟨entries, hkeyed, h⟩
      cases hkeyed with
      | @cons _ e _ entries he hkeyed =>
        obtain ⟨name, n'⟩ := e
        obtain ⟨hname, rfl⟩ := he
        refine ⟨name, memberName_eq_ok_iff.2 hname, ?_⟩
        cases hmember : f.member ctx name n slots with
        | none =>
          rw [gather_cons_of_none hmember] at h
          dsimp only
          rw [hfirst.pass]
          exact (ih hrest).2 ⟨entries, hkeyed, h⟩
        | some read =>
          rw [gather_cons_of_some hmember] at h
          obtain ⟨taken, hread, h⟩ := bind_eq_ok.1 h
          exact bind_eq_ok.2 ⟨taken, hread, (ih hrest).2 ⟨entries, hkeyed, h⟩⟩

end Members

/-- Reading an object in the circumstances `ctx` finds the parts of a value, and so does reading an array. The
names are those of the parts. -/
structure Means (f : Fields α) (ctx : Context) (names : List String) (parts : α → List Part → Prop) : Prop where
  ignores : ∀ name, name ∉ names → ∀ n slots, f.member ctx name n slots = none
  object : ∀ entries a, (∃ slots, gather (f.member ctx) f.empty entries = .ok slots ∧ f.build slots = .ok a) ↔
    ∃ ps, parts a ps ∧ ∀ p ∈ ps, p.Stands entries
  array : ∀ wanted cursor a cursor', f.elements wanted ctx cursor = .ok (a, cursor') ↔
    ∃ ps items, parts a ps ∧ List.Forall₂ Part.holds ps items ∧
      cursor.items = items ++ cursor'.items ∧ cursor'.stop = cursor.stop ∧
        cursor'.index = cursor.index + items.length

/-! ### One field -/

section Field

variable {ctx : Context} {name : String} {read : Decoder α} {absent : Option α}

/-- The part from which a field reads `a`. -/
def part (name : String) (read : Decoder α) (absent : Option α) (ctx : Context) (a : α) : Part :=
  ⟨name, fun n => read ctx n = .ok a, absent = some a⟩

/-- What a field takes, and what it makes of it. -/
def take (name : String) (read : Decoder α) (ctx : Context) (key : String) (n : Node) (slot : Option α) :
    Option (Except ReadError (Option α)) :=
  if key = name then
    match slot with
    | some _ => some (problem (.duplicateField name))
    | none => some ((within (.field name) (read ctx n)).map some)
  else none

theorem gather_take_of_some {a : α} {entries : List (String × Node)} {slot : Option α} :
    gather (take name read ctx) (some a) entries = .ok slot ↔ Lacks entries name ∧ slot = some a := by
  induction entries with
  | nil => simp [gather, Lacks, eq_comm]
  | cons e entries ih =>
    obtain ⟨key, n⟩ := e
    unfold gather take
    by_cases hkey : key = name
    · simp [hkey, Lacks, problem, bind, Except.bind]
    · rw [if_neg hkey]
      refine ih.trans ?_
      simp [Lacks, hkey]

theorem gather_take {entries : List (String × Node)} {slot : Option α} :
    gather (take name read ctx) none entries = .ok slot ↔
      (Lacks entries name ∧ slot = none) ∨ ∃ n a, Sole entries name n ∧ read ctx n = .ok a ∧ slot = some a := by
  induction entries with
  | nil => simp [gather, Lacks, Sole, eq_comm]
  | cons e entries ih =>
    obtain ⟨key, n⟩ := e
    unfold gather
    -- the first member with the name must be the last one, or it is a duplicate
    by_cases hkey : key = name
    · subst hkey
      have htake : take key read ctx key n none = some ((within (.field key) (read ctx n)).map some) :=
        if_pos rfl
      have hsole : ∀ n', Sole ((key, n) :: entries) key n' ↔ n' = n ∧ Lacks entries key := by
        intro n'
        unfold Sole Lacks
        rw [List.filter_cons_of_pos (by simp)]
        simp [List.filter_eq_nil_iff, @eq_comm _ n n']
      rw [htake]
      simp only [bind_eq_ok, map_eq_ok, within_eq_ok]
      constructor
      · rintro ⟨_, ⟨a, hread, rfl⟩, h⟩
        obtain ⟨hlacks, rfl⟩ := gather_take_of_some.1 h
        exact .inr ⟨n, a, (hsole n).2 ⟨rfl, hlacks⟩, hread, rfl⟩
      · rintro (⟨hlacks, -⟩ | ⟨n', a, h, hread, rfl⟩)
        · exact absurd rfl (hlacks _ List.mem_cons_self)
        · obtain ⟨rfl, hlacks⟩ := (hsole n').1 h
          exact ⟨some a, ⟨a, hread, rfl⟩, gather_take_of_some.2 ⟨hlacks, rfl⟩⟩
    · have htake : take name read ctx key n none = none := if_neg hkey
      rw [htake]
      refine ih.trans ?_
      simp [Lacks, Sole, hkey]

/-- A field is one part, which an object may lack if there is a value for it then. -/
theorem Means.field (name : String) (read : Decoder α) (absent : Option α) (ctx : Context) :
    (Fields.field name read absent).Means ctx [name] fun a ps =>
      ps = [part name read absent ctx a] where
  ignores key hkey n slot := if_neg (by simpa using hkey)
  object entries a := by
    show (∃ slot : Option α, gather (take name read ctx) none entries = .ok slot ∧ _) ↔ _
    simp only [gather_take, exists_eq_left, List.forall_mem_singleton, Part.Stands, part]
    constructor
    · rintro ⟨slot, ⟨hlacks, rfl⟩ | ⟨n, a', hsole, hread, rfl⟩, hbuild⟩
      · cases absent with
        | none => cases hbuild
        | some a' =>
          obtain rfl := Except.ok.inj hbuild
          exact .inr ⟨rfl, hlacks⟩
      · obtain rfl := Except.ok.inj hbuild
        exact .inl ⟨n, hsole, hread⟩
    · rintro (⟨n, hsole, hread⟩ | ⟨rfl, hlacks⟩)
      · exact ⟨some a, .inr ⟨n, a, hsole, hread, rfl⟩, rfl⟩
      · exact ⟨none, .inl ⟨hlacks, rfl⟩, rfl⟩
  array wanted cursor a cursor' := by
    obtain ⟨index, nodes, stop⟩ := cursor
    obtain ⟨index', nodes', stop'⟩ := cursor'
    cases nodes with
    | nil =>
      constructor
      · intro h
        obtain ⟨_, -, h⟩ := bind_eq_ok.1 h
        cases h
      · rintro ⟨ps, items, rfl, hitems, hnodes, -⟩
        cases hitems
        cases hnodes
    | cons n nodes =>
      constructor
      · intro h
        obtain ⟨a', hread, h⟩ := bind_eq_ok.1 h
        cases h
        exact ⟨_, [n], rfl, .cons (within_eq_ok.1 hread) .nil, rfl, rfl, rfl⟩
      · rintro ⟨ps, items, rfl, hitems, hnodes, hstop, hindex⟩
        cases hitems with
        | cons hread hrest =>
          cases hrest
          cases hnodes
          obtain rfl : stop' = stop := hstop
          obtain rfl : index' = index + 1 := hindex
          exact bind_eq_ok.2 ⟨a, within_eq_ok.2 hread, rfl⟩

/-- The parts from which a field reads the values with some property. -/
def readings (name : String) (read : Decoder α) (absent : Option α) (ctx : Context) (accepted : α → Prop) :
    Part → Prop := fun p => ∃ a, accepted a ∧ p = part name read absent ctx a

theorem covers_readings {holds : Node → Prop} {missing : Prop} {accepted : α → Prop}
    (hholds : ∀ n, n.Whole → (holds n ↔ ∃ a, accepted a ∧ read ctx n = .ok a))
    (hmissing : missing ↔ ∃ a, accepted a ∧ absent = some a) :
    Part.Covers ⟨name, holds, missing⟩ (readings name read absent ctx accepted) where
  name p hp := by
    obtain ⟨a, -, rfl⟩ := hp
    rfl
  holds n hn := by
    refine (hholds n hn).trans ?_
    constructor
    · rintro ⟨a, ha, hread⟩
      exact ⟨_, ⟨a, ha, rfl⟩, hread⟩
    · rintro ⟨_, ⟨a, ha, rfl⟩, hread⟩
      exact ⟨a, ha, hread⟩
  absent := by
    refine hmissing.trans ?_
    constructor
    · rintro ⟨a, ha, heq⟩
      exact ⟨_, ⟨a, ha, rfl⟩, heq⟩
    · rintro ⟨_, ⟨a, ha, rfl⟩, heq⟩
      exact ⟨a, ha, heq⟩

/-- The part of a field that must be there. -/
theorem covers_required {holds : Node → Prop} {accepted : α → Prop}
    (h : ∀ n, n.Whole → (holds n ↔ ∃ a, accepted a ∧ read ctx n = .ok a)) :
    Part.Covers ⟨name, holds, False⟩ (readings name read none ctx accepted) :=
  covers_readings h ⟨False.elim, fun ⟨_, _, h⟩ => nomatch h⟩

/-- The part of a field that may be null or missing. -/
theorem covers_optional {holds : Node → Prop} {missing : Prop} {accepted : Option α → Prop}
    (h : ∀ n, n.Whole → (holds n ↔ n.IsNull ∧ accepted none ∨
      ¬ n.IsNull ∧ ∃ a, accepted (some a) ∧ read ctx n = .ok a)) (hmissing : missing ↔ accepted none) :
    Part.Covers ⟨name, holds, missing⟩ (readings name (.option read) (some none) ctx accepted) := by
  refine covers_readings (fun n hn => ?_) ?_
  · rw [h n hn]
    simp only [option_eq_ok_iff]
    constructor
    · rintro (⟨hnull, hnone⟩ | ⟨hnull, a, ha, hread⟩)
      · exact ⟨none, hnone, .inl ⟨hnull, rfl⟩⟩
      · exact ⟨some a, ha, .inr ⟨hnull, a, hread, rfl⟩⟩
    · rintro ⟨_, ho, ⟨hnull, rfl⟩ | ⟨hnull, a, hread, rfl⟩⟩
      · exact .inl ⟨hnull, ho⟩
      · exact .inr ⟨hnull, a, ho, hread⟩
  · rw [hmissing]
    constructor
    · intro h
      exact ⟨none, h, rfl⟩
    · rintro ⟨o, ho, heq⟩
      obtain rfl := Option.some.inj heq
      exact ho

/-- The part of a field whose value does not matter, as long as it is null or can be read. -/
theorem covers_any {holds : Node → Prop} (h : ∀ n, n.Whole → (holds n ↔ ∃ a, read ctx n = .ok a)) :
    Part.Covers ⟨name, fun n => n.IsNull ∨ holds n, True⟩
      (readings name (.option read) (some none) ctx fun _ => True) := by
  refine covers_optional (fun n hn => ?_) Iff.rfl
  simp only [h n hn, and_true, true_and]
  by_cases hnull : n.IsNull <;> simp [hnull]

end Field

/-! ### Combinations -/

theorem forall₂_append_left {γ δ : Type} {r : γ → δ → Prop} {cs cs' : List γ} {ds : List δ}
    (h : List.Forall₂ r (cs ++ cs') ds) :
    ∃ ds₁ ds₂, List.Forall₂ r cs ds₁ ∧ List.Forall₂ r cs' ds₂ ∧ ds = ds₁ ++ ds₂ :=
  ⟨ds.take cs.length, ds.drop cs.length, by simpa using List.forall₂_take cs.length h,
    by simpa using List.forall₂_drop cs.length h, (List.take_append_drop _ _).symm⟩

/-- What two groups of fields take: the second one what the first one leaves. -/
def share {S T : Type} (first : String → Node → S → Option (Except ReadError S))
    (second : String → Node → T → Option (Except ReadError T)) (name : String) (n : Node) (slots : S × T) :
    Option (Except ReadError (S × T)) :=
  match first name n slots.1 with
  | some read => some (read.map (·, slots.2))
  | none => (second name n slots.2).map (·.map (slots.1, ·))

/-- If no name is for both groups, each group takes what it would take alone. -/
theorem gather_share {S T : Type} {first : String → Node → S → Option (Except ReadError S)}
    {second : String → Node → T → Option (Except ReadError T)} {names : List String}
    (hfirst : ∀ name, name ∉ names → ∀ n s, first name n s = none)
    (hsecond : ∀ name ∈ names, ∀ n t, second name n t = none) {entries : List (String × Node)}
    {slots slots' : S × T} : gather (share first second) slots entries = .ok slots' ↔
      gather first slots.1 entries = .ok slots'.1 ∧ gather second slots.2 entries = .ok slots'.2 := by
  induction entries generalizing slots with
  | nil => simp only [gather, Except.ok.injEq, Prod.ext_iff]
  | cons e entries ih =>
    obtain ⟨name, n⟩ := e
    unfold gather share
    -- a name that the first group may take is none of the second, so the order of asking does not matter
    by_cases hname : name ∈ names
    · rw [hsecond name hname]
      cases first name n slots.1 with
      | none => exact ih
      | some read =>
        simp only [bind_eq_ok, map_eq_ok]
        constructor
        · rintro ⟨_, ⟨s, hread, rfl⟩, h⟩
          obtain ⟨hfirst, hsecond⟩ := ih.1 h
          exact ⟨⟨s, hread, hfirst⟩, hsecond⟩
        · rintro ⟨⟨s, hread, hfirst⟩, hsecond⟩
          exact ⟨(s, slots.2), ⟨s, hread, rfl⟩, ih.2 ⟨hfirst, hsecond⟩⟩
    · rw [hfirst name hname]
      cases second name n slots.2 with
      | none => exact ih
      | some read =>
        simp only [Option.map_some, bind_eq_ok, map_eq_ok]
        constructor
        · rintro ⟨_, ⟨t, hread, rfl⟩, h⟩
          obtain ⟨hfirst, hsecond⟩ := ih.1 h
          exact ⟨hfirst, t, hread, hsecond⟩
        · rintro ⟨hfirst, t, hread, hsecond⟩
          exact ⟨(slots.1, t), ⟨t, hread, rfl⟩, ih.2 ⟨hfirst, hsecond⟩⟩

section Combinations

variable {ctx : Context}

/-- Another value from the same parts. -/
theorem Means.map {f : Fields α} {names : List String} {parts : α → List Part → Prop} (g : α → β)
    (h : f.Means ctx names parts) : (g <$> f).Means ctx names fun b ps => ∃ a, parts a ps ∧ g a = b where
  ignores := h.ignores
  object entries b := by
    show (∃ slots : f.Slots, gather (f.member ctx) f.empty entries = .ok slots ∧
      (f.build slots).map g = .ok b) ↔ _
    simp only [map_eq_ok]
    constructor
    · rintro ⟨slots, hgather, a, hbuild, rfl⟩
      obtain ⟨ps, hps, hstands⟩ := (h.object entries a).1 ⟨slots, hgather, hbuild⟩
      exact ⟨ps, ⟨a, hps, rfl⟩, hstands⟩
    · rintro ⟨ps, ⟨a, hps, rfl⟩, hstands⟩
      obtain ⟨slots, hgather, hbuild⟩ := (h.object entries a).2 ⟨ps, hps, hstands⟩
      exact ⟨slots, hgather, a, hbuild, rfl⟩
  array wanted cursor b cursor' := by
    show (f.elements wanted ctx cursor).map (fun x => (g x.1, x.2)) = _ ↔ _
    rw [map_eq_ok]
    constructor
    · rintro ⟨⟨a, c⟩, helements, heq⟩
      cases heq
      obtain ⟨ps, items, hps, hrest⟩ := (h.array wanted cursor a c).1 helements
      exact ⟨ps, items, ⟨a, hps, rfl⟩, hrest⟩
    · rintro ⟨ps, items, ⟨a, hps, rfl⟩, hrest⟩
      exact ⟨(a, cursor'), (h.array wanted cursor a cursor').2 ⟨ps, items, hps, hrest⟩, rfl⟩

section Seq

variable {f : Fields (α → β)} {x : Fields α} {names more : List String} {partsF : (α → β) → List Part → Prop}
  {partsX : α → List Part → Prop}

theorem member_seq (f : Fields (α → β)) (x : Fields α) :
    (f <*> x).member ctx = share (f.member ctx) (x.member ctx) := by
  have h : ∀ name n, ∀ slots : f.Slots × x.Slots, (f <*> x).member ctx name n slots =
      share (f.member ctx) (x.member ctx) name n slots := by
    intro name n slots
    show (Fields.seq f fun _ => x).member ctx name n slots = _
    unfold Fields.seq share
    dsimp only
    cases f.member ctx name n slots.1 <;> rfl
  exact funext fun name => funext fun n => funext fun slots => h name n slots

/-- The parts of two groups of fields together. -/
theorem Means.seq (hf : f.Means ctx names partsF) (hx : x.Means ctx more partsX)
    (hdisjoint : ∀ name ∈ names, name ∉ more) : (f <*> x).Means ctx (names ++ more) fun b ps =>
      ∃ g a ps₁ ps₂, partsF g ps₁ ∧ partsX a ps₂ ∧ g a = b ∧ ps = ps₁ ++ ps₂ where
  ignores name hname n slots := by
    rw [List.mem_append, not_or] at hname
    rw [member_seq]
    unfold share
    rw [hf.ignores name hname.1, hx.ignores name hname.2]
    rfl
  object entries b := by
    rw [member_seq]
    show (∃ slots : f.Slots × x.Slots,
      gather (share (f.member ctx) (x.member ctx)) (f.empty, x.empty) entries = .ok slots ∧
        (f.build slots.1 >>= fun g => x.build slots.2 >>= fun a => Pure.pure (g a)) = .ok b) ↔ _
    have hshare : ∀ slots : f.Slots × x.Slots,
        gather (share (f.member ctx) (x.member ctx)) (f.empty, x.empty) entries = .ok slots ↔
          gather (f.member ctx) f.empty entries = .ok slots.1 ∧ gather (x.member ctx) x.empty entries = .ok slots.2 :=
      fun slots => gather_share hf.ignores fun name hname => hx.ignores name (hdisjoint name hname)
    simp only [hshare, bind_eq_ok, pure_eq_ok]
    constructor
    · rintro ⟨slots, ⟨hgatherF, hgatherX⟩, g, hbuildF, a, hbuildX, rfl⟩
      obtain ⟨ps₁, hps₁, hstands₁⟩ := (hf.object entries g).1 ⟨_, hgatherF, hbuildF⟩
      obtain ⟨ps₂, hps₂, hstands₂⟩ := (hx.object entries a).1 ⟨_, hgatherX, hbuildX⟩
      exact ⟨ps₁ ++ ps₂, ⟨g, a, ps₁, ps₂, hps₁, hps₂, rfl, rfl⟩, List.forall_mem_append.2 ⟨hstands₁, hstands₂⟩⟩
    · rintro ⟨_, ⟨g, a, ps₁, ps₂, hps₁, hps₂, rfl, rfl⟩, hstands⟩
      obtain ⟨hstands₁, hstands₂⟩ := List.forall_mem_append.1 hstands
      obtain ⟨slots₁, hgatherF, hbuildF⟩ := (hf.object entries g).2 ⟨ps₁, hps₁, hstands₁⟩
      obtain ⟨slots₂, hgatherX, hbuildX⟩ := (hx.object entries a).2 ⟨ps₂, hps₂, hstands₂⟩
      exact ⟨(slots₁, slots₂), ⟨hgatherF, hgatherX⟩, g, hbuildF, a, hbuildX, rfl⟩
  array wanted cursor b cursor' := by
    show (Fields.seq f fun _ => x).elements wanted ctx cursor = .ok (b, cursor') ↔ _
    constructor
    · intro h
      obtain ⟨⟨g, middle⟩, helementsF, h⟩ := bind_eq_ok.1 h
      obtain ⟨⟨a, last⟩, helementsX, h⟩ := bind_eq_ok.1 h
      cases h
      obtain ⟨ps₁, items₁, hps₁, hitems₁, hnodes₁, hstop₁, hindex₁⟩ := (hf.array _ _ _ _).1 helementsF
      obtain ⟨ps₂, items₂, hps₂, hitems₂, hnodes₂, hstop₂, hindex₂⟩ := (hx.array _ _ _ _).1 helementsX
      refine ⟨ps₁ ++ ps₂, items₁ ++ items₂, ⟨g, a, ps₁, ps₂, hps₁, hps₂, rfl, rfl⟩,
        List.rel_append hitems₁ hitems₂, ?_, hstop₂.trans hstop₁, ?_⟩
      · rw [hnodes₁, hnodes₂, List.append_assoc]
      · rw [hindex₂, hindex₁, List.length_append, Nat.add_assoc]
    · rintro ⟨_, items, ⟨g, a, ps₁, ps₂, hps₁, hps₂, rfl, rfl⟩, hitems, hnodes, hstop, hindex⟩
      obtain ⟨items₁, items₂, hitems₁, hitems₂, rfl⟩ := forall₂_append_left hitems
      rw [List.append_assoc] at hnodes
      rw [List.length_append, ← Nat.add_assoc] at hindex
      have helementsF := (hf.array wanted cursor g
        ⟨cursor.index + items₁.length, items₂ ++ cursor'.items, cursor.stop⟩).2
        ⟨ps₁, items₁, hps₁, hitems₁, hnodes, rfl, rfl⟩
      have helementsX := (hx.array wanted
        ⟨cursor.index + items₁.length, items₂ ++ cursor'.items, cursor.stop⟩ a cursor').2
        ⟨ps₂, items₂, hps₂, hitems₂, rfl, hstop, hindex⟩
      exact bind_eq_ok.2 ⟨_, helementsF, bind_eq_ok.2 ⟨_, helementsX, rfl⟩⟩

end Seq

end Combinations

/-! ## Records -/

theorem Means.congr {f : Fields α} {ctx : Context} {names : List String} {parts parts' : α → List Part → Prop}
    (h : f.Means ctx names parts) (heq : ∀ a ps, parts a ps ↔ parts' a ps) : f.Means ctx names parts' := by
  have hparts : parts = parts' := funext fun a => funext fun ps => propext (heq a ps)
  rwa [← hparts]

theorem atArrayEnd_eq_ok_iff {ctx : Context} (hctx : ctx.origin = .text) {count : Nat} {cursor : Cursor} :
    atArrayEnd ctx count cursor = .ok () ↔ cursor.items = [] ∧ cursor.stop = none := by
  unfold atArrayEnd
  split
  · next hitems hstop => exact ⟨fun _ => ⟨hitems, hstop⟩, fun _ => rfl⟩
  · next hstop => exact ⟨nofun, fun h => nomatch hstop.symm.trans h.2⟩
  · next hitems => exact ⟨nofun, fun h => nomatch hitems.symm.trans h.1⟩
  · next hend _ =>
    rw [hctx]
    exact ⟨nofun, fun h => (hend h.1 h.2).elim⟩

/-- An object is read if it has the parts of a record. -/
theorem record_object_eq_ok_iff {f : Fields α} {depth : Nat} {names : List String} {parts : α → List Part → Prop}
    (h : f.Means ⟨depth, .text⟩ names parts) {wanted : String} {members : List (Key × Node)}
    (hwhole : ∀ m ∈ members, m.2.Whole) {a : α} :
    f.record wanted ⟨depth + 1, .text⟩ (.object members none) = .ok a ↔
      ∃ ps entries, parts a ps ∧ Keyed members entries ∧ ∀ p ∈ ps, p.Stands entries := by
  constructor
  · intro hread
    obtain ⟨slots, hmembers, hread⟩ := bind_eq_ok.1 hread
    obtain ⟨_, -, hread⟩ := bind_eq_ok.1 hread
    obtain ⟨entries, hkeyed, hgather⟩ := (members_eq_ok_iff hwhole).1 hmembers
    have hbuild : f.build slots = .ok a := by
      cases hbuild : f.build slots with
      | ok a' =>
        rw [hbuild] at hread
        exact congrArg Except.ok (Except.ok.inj hread)
      | error p =>
        rw [hbuild] at hread
        cases hread
    obtain ⟨ps, hps, hstands⟩ := (h.object entries a).1 ⟨slots, hgather, hbuild⟩
    exact ⟨ps, entries, hps, hkeyed, hstands⟩
  · rintro ⟨ps, entries, hps, hkeyed, hstands⟩
    obtain ⟨slots, hgather, hbuild⟩ := (h.object entries a).2 ⟨ps, hps, hstands⟩
    refine bind_eq_ok.2 ⟨slots, (members_eq_ok_iff hwhole).2 ⟨entries, hkeyed, hgather⟩, ?_⟩
    refine bind_eq_ok.2 ⟨(), rfl, ?_⟩
    rw [hbuild]
    rfl

/-- An array is read if its items are the parts of a record. -/
theorem record_array_eq_ok_iff {f : Fields α} {depth : Nat} {names : List String} {parts : α → List Part → Prop}
    (h : f.Means ⟨depth, .text⟩ names parts) {wanted : String} {nodes : List Node} {a : α} :
    f.record wanted ⟨depth + 1, .text⟩ (.array nodes none) = .ok a ↔
      ∃ ps, parts a ps ∧ List.Forall₂ Part.holds ps nodes := by
  constructor
  · intro hread
    obtain ⟨⟨a', cursor⟩, helements, hread⟩ := bind_eq_ok.1 hread
    obtain ⟨_, hend, hread⟩ := bind_eq_ok.1 hread
    cases hread
    obtain ⟨ps, items, hps, hitems, hnodes, -⟩ := (h.array _ _ _ _).1 helements
    rw [((atArrayEnd_eq_ok_iff rfl).1 hend).1, List.append_nil] at hnodes
    obtain rfl : nodes = items := hnodes
    exact ⟨ps, hps, hitems⟩
  · rintro ⟨ps, hps, hitems⟩
    have helements := (h.array (wanted ++ " with " ++ countText f.count) ⟨0, nodes, none⟩ a
      ⟨0 + nodes.length, [], none⟩).2 ⟨ps, nodes, hps, hitems, (List.append_nil _).symm, rfl, rfl⟩
    exact bind_eq_ok.2 ⟨_, helements, bind_eq_ok.2 ⟨(), (atArrayEnd_eq_ok_iff rfl).2 ⟨rfl, rfl⟩, rfl⟩⟩

/-- A record is read from the values of its shape. -/
theorem record_eq_ok_iff {f : Fields α} {depth : Nat} {names : List String} {parts : α → List Part → Prop}
    (h : f.Means ⟨depth, .text⟩ names parts) {wanted : String} {n : Node} (hn : n.Whole) {a : α} :
    f.record wanted ⟨depth + 1, .text⟩ n = .ok a ↔ ∃ ps, parts a ps ∧ Shaped True ps n := by
  cases hn with
  | scalar _ =>
    constructor
    · intro h
      exact absurd h unexpected_ne_ok
    · rintro ⟨ps, -, ⟨members, entries, hobject, -⟩ | ⟨-, items, harray, -⟩⟩
      · cases hobject
      · cases harray
  | object hwhole =>
    rw [record_object_eq_ok_iff h hwhole]
    constructor
    · rintro ⟨ps, entries, hps, hkeyed, hstands⟩
      exact ⟨ps, hps, .inl ⟨_, entries, rfl, hkeyed, hstands⟩⟩
    · rintro ⟨ps, hps, ⟨_, entries, hobject, hkeyed, hstands⟩ | ⟨-, items, harray, -⟩⟩
      · cases hobject
        exact ⟨ps, entries, hps, hkeyed, hstands⟩
      · cases harray
  | array _ =>
    rw [record_array_eq_ok_iff h]
    constructor
    · rintro ⟨ps, hps, hitems⟩
      exact ⟨ps, hps, .inr ⟨trivial, _, rfl, hitems⟩⟩
    · rintro ⟨ps, hps, ⟨members, entries, hobject, -⟩ | ⟨-, items, harray, hitems⟩⟩
      · cases hobject
      · cases harray
        exact ⟨ps, hps, hitems⟩

/-- A record is read from the values with parts that cover its own. -/
theorem record_iff_shaped {f : Fields α} {depth : Nat} {names : List String} {parts : α → List Part → Prop}
    (h : f.Means ⟨depth, .text⟩ names parts) {a : α} {qs : List Part} {groups : List (Part → Prop)}
    (hgroups : ∀ ps, parts a ps ↔ Choice groups ps) (hcovers : List.Forall₂ Part.Covers qs groups)
    {wanted : String} {n : Node} (hn : n.Whole) :
    f.record wanted ⟨depth + 1, .text⟩ n = .ok a ↔ Shaped True qs n := by
  rw [record_eq_ok_iff h hn, shaped_iff_of_covers hcovers hn]
  exact exists_congr fun ps => and_congr_left fun _ => hgroups ps

/-- Records with some property are read from the values with parts that cover theirs. -/
theorem exists_record_iff {f : Fields α} {depth : Nat} {names : List String} {parts : α → List Part → Prop}
    (h : f.Means ⟨depth, .text⟩ names parts) {accepted : α → Prop} {qs : List Part}
    {groups : List (Part → Prop)} (hgroups : ∀ ps, (∃ a, accepted a ∧ parts a ps) ↔ Choice groups ps)
    (hcovers : List.Forall₂ Part.Covers qs groups) {wanted : String} {n : Node} (hn : n.Whole) :
    (∃ a, accepted a ∧ f.record wanted ⟨depth + 1, .text⟩ n = .ok a) ↔ Shaped True qs n := by
  rw [shaped_iff_of_covers hcovers hn]
  constructor
  · rintro ⟨a, ha, hread⟩
    obtain ⟨ps, hps, hshaped⟩ := (record_eq_ok_iff h hn).1 hread
    exact ⟨ps, (hgroups ps).1 ⟨a, ha, hps⟩, hshaped⟩
  · rintro ⟨ps, hps, hshaped⟩
    obtain ⟨a, ha, hparts⟩ := (hgroups ps).2 hps
    exact ⟨a, ha, (record_eq_ok_iff h hn).2 ⟨ps, hparts, hshaped⟩⟩

/-- A record that is read has no fault of its own. -/
theorem fault?_of_record {f : Fields α} {depth : Nat} {names : List String} {parts : α → List Part → Prop}
    (h : f.Means ⟨depth, .text⟩ names parts) {wanted : String} {n : Node} {a : α}
    (hread : f.record wanted ⟨depth + 1, .text⟩ n = .ok a) : n.fault? = none := by
  cases n with
  | scalar s => exact absurd hread unexpected_ne_ok
  | object members stop =>
    obtain ⟨slots, -, hread⟩ := bind_eq_ok.1 hread
    obtain ⟨_, hend, -⟩ := bind_eq_ok.1 hread
    exact atLastMember_eq_ok_iff.1 hend
  | array nodes stop =>
    obtain ⟨⟨a', cursor⟩, helements, hread⟩ := bind_eq_ok.1 hread
    obtain ⟨_, hend, -⟩ := bind_eq_ok.1 hread
    obtain ⟨ps, items, -, -, -, hstop, -⟩ := (h.array _ _ _ _).1 helements
    rw [((atArrayEnd_eq_ok_iff rfl).1 hend).2] at hstop
    exact hstop.symm

/-- A record is read from a text if it is read from the value of which this is a text. -/
theorem readAll_record_iff {f : Fields α} {names : List String} {parts : α → List Part → Prop}
    (h : f.Means ⟨126, .text⟩ names parts) {wanted : String} {octets : List UInt8} {a : α} :
    (f.record wanted).readAll octets = .ok a ↔ ∃ n, n.IsTextOf octets ∧ f.record wanted .top n = .ok a := by
  unfold Decoder.readAll
  constructor
  · intro hall
    obtain ⟨a', hread, hall⟩ := bind_eq_ok.1 hall
    split at hall
    · cases hall
    · rename_i hsurplus
      cases hall
      have hsound : (Document.parse octets).Sound := ⟨fault?_of_record h hread, by simpa using hsurplus⟩
      exact ⟨_, isTextOf_of_parse hsound, hread⟩
  · rintro ⟨n, htext, hread⟩
    rw [parse_of_isTextOf htext]
    exact bind_eq_ok.2 ⟨a, hread, rfl⟩

end Fields

end CommentBot.Json
