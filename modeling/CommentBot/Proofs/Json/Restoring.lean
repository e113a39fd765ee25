import CommentBot.Json.Decoder.Choice
import CommentBot.Proofs.Json.Records
import CommentBot.Proofs.Json.Writing

/-!
# Reading back what was written

`Restores depth read v a`: `read` gets `a` back from the tree of `v`, wherever that is read from, as long as `depth`
more brackets may be opened. Each combinator of decoders has its lemma, from those of the parts:

* `Restores.list`, `Restores.option`, `Restores.record` for values made of others;
* `Restores.named`, `Restores.carrying` for `choice`, `Restores.taggedName`, `Restores.taggedContent` for `tagged`, and
  `Restores.merged`.

`Restores.readAll` is what they lead to: the text that is written is read as the value it was written for.
-/

namespace CommentBot.Json

variable {α β : Type}

/-- The value holds no more than `depth` brackets inside one another, and `a` is read from its tree. -/
structure Restores (depth : Nat) (read : Decoder α) (v : Value) (a : α) : Prop where
  plain : v.Plain depth
  reads : ∀ ctx : Context, depth ≤ ctx.depth → read ctx v.node = .ok a

namespace Restores

variable {depth : Nat} {read : Decoder α} {v : Value} {a : α}

/-- The text that was written is read back. -/
theorem readAll (h : Restores depth read v a) (hdepth : depth ≤ 127) :
    read.readAll (Text.utf8 v.text) = .ok a := by
  unfold Decoder.readAll
  rw [parse_text h.plain]
  exact bind_eq_ok.2 ⟨a, h.reads .top hdepth, rfl⟩

/-- A value in brackets has to be read with one bracket less to come. -/
theorem bracketed (hplain : v.Plain (depth + 1))
    (hread : ∀ depth' origin, depth ≤ depth' → read ⟨depth' + 1, origin⟩ v.node = .ok a) :
    Restores (depth + 1) read v a := by
  refine ⟨hplain, fun ctx hctx => ?_⟩
  obtain ⟨depth', origin⟩ := ctx
  cases depth' with
  | zero => exact absurd hctx (Nat.not_succ_le_zero depth)
  | succ depth' => exact hread depth' origin (Nat.le_of_succ_le_succ hctx)

/-! ## Scalars -/

theorem string (s : String) : Restores depth Decoder.string (.string s) s :=
  ⟨.string s, fun _ _ => string_eq_ok_iff.2 ⟨_, rfl, spells_spelling s⟩⟩

theorem bool (b : Bool) : Restores depth Decoder.bool (.bool b) b := ⟨.bool b, fun _ _ => rfl⟩

theorem isNatural_node (n : Nat) : (Value.nat n).node.IsNatural n := ⟨_, rfl, ofDigits_decimals n⟩

theorem uint64 (n : UInt64) : Restores depth Decoder.uint64 (.nat n.toNat) n :=
  ⟨.nat n.toNat_lt, fun _ _ => uint64_eq_ok_iff.2 (isNatural_node n.toNat)⟩

theorem uint16 (n : UInt16) : Restores depth Decoder.uint16 (.nat n.toNat) n := by
  have hsize : UInt16.size ≤ UInt64.size := by decide
  refine ⟨.nat (Nat.lt_of_lt_of_le n.toNat_lt hsize), fun ctx _ => ?_⟩
  unfold Decoder.uint16
  rw [(natural_eq_ok_iff hsize).2 ⟨isNatural_node n.toNat, n.toNat_lt⟩]
  exact congrArg Except.ok UInt16.ofNat_toNat

/-! ## Values made of others -/

theorem map (f : α → β) (h : Restores depth read v a) : Restores depth (.map f read) v (f a) :=
  ⟨h.plain, fun ctx hctx => map_eq_ok.2 ⟨a, h.reads ctx hctx, rfl⟩⟩

theorem refine {accept : α → Except String β} {b : β} (h : Restores depth read v a) (haccept : accept a = .ok b) :
    Restores depth (.refine read accept) v b := by
  refine ⟨h.plain, fun ctx hctx => bind_eq_ok.2 ⟨a, h.reads ctx hctx, ?_⟩⟩
  rw [haccept]

theorem null : Restores depth (.option read) .null none := ⟨.null, fun _ _ => rfl⟩

/-- An option, of which the values are not written as null. -/
theorem option {write : α → Value} {o : Option α} (h : ∀ a ∈ o, Restores depth read (write a) a)
    (hnull : ∀ a ∈ o, ¬ (write a).node.IsNull) : Restores depth (.option read) (.ofOption write o) o := by
  cases o with
  | none => exact null
  | some a =>
    refine ⟨(h a rfl).plain, fun ctx hctx => ?_⟩
    exact option_eq_ok_iff.2 (.inr ⟨hnull a rfl, a, (h a rfl).reads ctx hctx, rfl⟩)

theorem items {write : α → Value} {as : List α} (h : ∀ a ∈ as, Restores depth read (write a) a) {ctx : Context}
    (hctx : depth ≤ ctx.depth) (index : Nat) (done : List α) :
    Decoder.items (read ctx) index done ((as.map write).map Value.node) = .ok (done.reverse ++ as) := by
  induction as generalizing index done with
  | nil => simp [Decoder.items]
  | cons a as ih =>
    obtain ⟨hfirst, hrest⟩ := List.forall_mem_cons.1 h
    refine bind_eq_ok.2 ⟨a, within_eq_ok.2 (hfirst.reads ctx hctx), ?_⟩
    rw [ih hrest, List.reverse_cons, List.append_assoc, List.singleton_append]

theorem list {write : α → Value} {as : List α} (h : ∀ a ∈ as, Restores depth read (write a) a) :
    Restores (depth + 1) (.list read) (.ofList write as) as := by
  refine .bracketed (.array (List.forall_mem_map.2 fun a ha => (h a ha).plain)) fun depth' origin hle => ?_
  rw [Value.ofList, Value.node, Value.itemNodes_eq_map]
  exact bind_eq_ok.2 ⟨as, items h hle 0 [], rfl⟩

end Restores

/-! ## Records -/

namespace Fields

/-- The names of the members, with the trees of their values. -/
def entries (members : List (String × Value)) : List (String × Node) := members.map fun m => (m.1, m.2.node)

/-- The members are all that the fields know, and `a` is built from them. -/
structure Restores (depth : Nat) (f : Fields α) (members : List (String × Value)) (a : α) : Prop where
  plain : ∀ m ∈ members, m.2.Plain depth
  ignores : ∀ name, name ∉ members.map (·.1) → ∀ ctx n slots, f.member ctx name n slots = none
  reads : ∀ ctx : Context, depth ≤ ctx.depth →
    ∃ slots, gather (f.member ctx) f.empty (entries members) = .ok slots ∧ f.build slots = .ok a

section Gather

variable {S : Type} {member : String → Node → S → Option (Except ReadError S)}

theorem gather_of_ignored {es : List (String × Node)} (h : ∀ e ∈ es, ∀ n slots, member e.1 n slots = none)
    (slots : S) : gather member slots es = .ok slots := by
  induction es with
  | nil => rfl
  | cons e es ih =>
    obtain ⟨hfirst, hrest⟩ := List.forall_mem_cons.1 h
    rw [gather_cons_of_none (hfirst e.2 slots), ih hrest]

theorem gather_append {es es' : List (String × Node)} {slots : S} : gather member slots (es ++ es') =
    gather member slots es >>= fun slots => gather member slots es' := by
  induction es generalizing slots with
  | nil => rfl
  | cons e es ih =>
    obtain ⟨name, n⟩ := e
    rw [List.cons_append]
    cases hmember : member name n slots with
    | none => rw [gather_cons_of_none hmember, gather_cons_of_none hmember, ih]
    | some read =>
      rw [gather_cons_of_some hmember, gather_cons_of_some hmember]
      cases read with
      | error e => rfl
      | ok slots' => exact ih

end Gather

theorem mem_entries {members : List (String × Value)} {e : String × Node} (h : e ∈ entries members) :
    e.1 ∈ members.map (·.1) := by
  obtain ⟨m, hm, rfl⟩ := List.mem_map.1 h
  exact List.mem_map_of_mem hm

/-- `a` is built from the members. The fields know these names only, of which not all need to be there. -/
structure Finds (depth : Nat) (f : Fields α) (names : List String) (members : List (String × Value)) (a : α) :
    Prop where
  plain : ∀ m ∈ members, m.2.Plain depth
  known : ∀ name ∈ members.map (·.1), name ∈ names
  ignores : ∀ name, name ∉ names → ∀ ctx n slots, f.member ctx name n slots = none
  reads : ∀ ctx : Context, depth ≤ ctx.depth →
    ∃ slots, gather (f.member ctx) f.empty (entries members) = .ok slots ∧ f.build slots = .ok a

theorem Restores.finds {depth : Nat} {f : Fields α} {members : List (String × Value)} {a : α}
    (h : Restores depth f members a) : Finds depth f (members.map (·.1)) members a :=
  ⟨h.plain, fun _ => id, h.ignores, h.reads⟩

theorem keyed (members : List (String × Value)) : Keyed (Value.memberNodes members) (entries members) := by
  rw [Value.memberNodes_eq_map]
  induction members with
  | nil => exact .nil
  | cons m members ih => exact .cons ⟨named_spelling m.1, rfl⟩ ih

theorem whole_members {depth : Nat} {members : List (String × Value)} (h : ∀ m ∈ members, m.2.Plain depth) :
    ∀ m ∈ Value.memberNodes members, m.2.Whole := by
  rw [Value.memberNodes_eq_map]
  exact List.forall_mem_map.2 fun m hm => (h m hm).whole

namespace Finds

variable {depth : Nat}

/-- A field that may be missing, and is. -/
theorem absent {read : Decoder α} (name : String) : Finds depth (.optional name read) [name] [] none where
  plain := nofun
  known := nofun
  ignores _ hkey _ _ _ := if_neg fun heq => hkey (List.mem_singleton.2 heq)
  reads _ _ := ⟨none, rfl, rfl⟩

/-- The members of a function, then those of its argument. -/
theorem seq {f : Fields (α → β)} {x : Fields α} {names names' : List String} {members more : List (String × Value)}
    {g : α → β} {a : α} (hf : Finds depth f names members g) (hx : Finds depth x names' more a)
    (hdisjoint : ∀ name ∈ names, name ∉ names') : Finds depth (f <*> x) (names ++ names') (members ++ more) (g a) where
  plain := List.forall_mem_append.2 ⟨hf.plain, hx.plain⟩
  known name hname := by
    rw [List.map_append, List.mem_append] at hname
    exact List.mem_append.2 (hname.imp (hf.known name) (hx.known name))
  ignores name hname ctx n slots := by
    rw [List.mem_append, not_or] at hname
    rw [member_seq]
    unfold share
    rw [hf.ignores name hname.1, hx.ignores name hname.2]
    rfl
  reads ctx hctx := by
    obtain ⟨slots, hgather, hbuild⟩ := hf.reads ctx hctx
    obtain ⟨slots', hgather', hbuild'⟩ := hx.reads ctx hctx
    refine ⟨(slots, slots'), ?_, bind_eq_ok.2 ⟨g, hbuild, bind_eq_ok.2 ⟨a, hbuild', rfl⟩⟩⟩
    rw [member_seq]
    -- each group of fields passes over the members of the other
    have hfirst : ∀ name, name ∉ names → ∀ n s, f.member ctx name n s = none :=
      fun name hname n s => hf.ignores name hname ctx n s
    have hsecond : ∀ name ∈ names, ∀ n t, x.member ctx name n t = none :=
      fun name hname n t => hx.ignores name (hdisjoint name hname) ctx n t
    refine (gather_share hfirst hsecond).2 ⟨?_, ?_⟩
    · rw [entries, List.map_append, gather_append]
      refine bind_eq_ok.2 ⟨slots, hgather, gather_of_ignored (fun e he => hfirst e.1 fun hmem => ?_) slots⟩
      exact hdisjoint e.1 hmem (hx.known e.1 (mem_entries he))
    · rw [entries, List.map_append, gather_append]
      refine bind_eq_ok.2 ⟨x.empty, gather_of_ignored (fun e he => ?_) x.empty, hgather'⟩
      exact hsecond e.1 (hf.known e.1 (mem_entries he))

theorem record {f : Fields α} {names : List String} {members : List (String × Value)} {a : α} (wanted : String)
    (h : Finds depth f names members a) : Json.Restores (depth + 1) (f.record wanted) (.object members) a := by
  refine .bracketed (.object h.plain) fun depth' origin hle => ?_
  obtain ⟨slots, hgather, hbuild⟩ := h.reads ⟨depth', origin⟩ hle
  rw [Value.node]
  refine bind_eq_ok.2 ⟨slots, (members_eq_ok_iff (whole_members h.plain)).2 ⟨_, keyed members, hgather⟩, ?_⟩
  refine bind_eq_ok.2 ⟨(), rfl, ?_⟩
  rw [hbuild]
  rfl

end Finds

namespace Restores

variable {depth : Nat}

/-- One field. -/
theorem field {read : Decoder α} {v : Value} {a : α} (name : String) (absent : Option α)
    (h : Json.Restores depth read v a) : Restores depth (.field name read absent) [(name, v)] a where
  plain := List.forall_mem_singleton.2 h.plain
  ignores key hkey ctx n slot := if_neg (by simpa using hkey)
  reads ctx hctx := by
    refine ⟨some a, ?_, by cases absent <;> rfl⟩
    show gather (take name read ctx) none [(name, v.node)] = .ok (some a)
    have htake : take name read ctx name v.node none = some ((within (.field name) (read ctx v.node)).map some) :=
      if_pos rfl
    rw [gather_cons_of_some htake, h.reads ctx hctx]
    rfl

theorem required {read : Decoder α} {v : Value} {a : α} (name : String) (h : Json.Restores depth read v a) :
    Restores depth (.required name read) [(name, v)] a := field name none h

theorem optional {read : Decoder α} {v : Value} {o : Option α} (name : String)
    (h : Json.Restores depth (.option read) v o) : Restores depth (.optional name read) [(name, v)] o :=
  field name (some none) h

/-- Another value from the same members. -/
theorem map {f : Fields α} {members : List (String × Value)} {a : α} (g : α → β) (h : Restores depth f members a) :
    Restores depth (g <$> f) members (g a) where
  plain := h.plain
  ignores := h.ignores
  reads ctx hctx := by
    obtain ⟨slots, hgather, hbuild⟩ := h.reads ctx hctx
    exact ⟨slots, hgather, map_eq_ok.2 ⟨a, hbuild, rfl⟩⟩

/-- The members of a function, then those of its argument. -/
theorem seq {f : Fields (α → β)} {x : Fields α} {members more : List (String × Value)} {g : α → β} {a : α}
    (hf : Restores depth f members g) (hx : Restores depth x more a)
    (hdisjoint : ∀ name ∈ members.map (·.1), name ∉ more.map (·.1)) :
    Restores depth (f <*> x) (members ++ more) (g a) := by
  have h := hf.finds.seq hx.finds hdisjoint
  exact ⟨h.plain, fun name hname => h.ignores name (by rwa [← List.map_append]), h.reads⟩

/-- One more field, with a name of its own. -/
theorem andField {f : Fields (α → β)} {members : List (String × Value)} {g : α → β} {read : Decoder α} {v : Value}
    {a : α} (hf : Restores depth f members g) (name : String) (absent : Option α) (h : Json.Restores depth read v a)
    (hnew : (members.map (·.1)).contains name = false) :
    Restores depth (f <*> .field name read absent) (members ++ [(name, v)]) (g a) :=
  hf.seq (field name absent h) fun key hkey hname => by
    obtain rfl : key = name := List.mem_singleton.1 hname
    rw [List.contains_iff_mem.2 hkey] at hnew
    cases hnew

theorem andRequired {f : Fields (α → β)} {members : List (String × Value)} {g : α → β} {read : Decoder α} {v : Value}
    {a : α} (hf : Restores depth f members g) (name : String) (h : Json.Restores depth read v a)
    (hnew : (members.map (·.1)).contains name = false) :
    Restores depth (f <*> .required name read) (members ++ [(name, v)]) (g a) := hf.andField name none h hnew

theorem andOptional {f : Fields (Option α → β)} {members : List (String × Value)} {g : Option α → β} {read : Decoder α}
    {v : Value} {o : Option α} (hf : Restores depth f members g) (name : String)
    (h : Json.Restores depth (.option read) v o) (hnew : (members.map (·.1)).contains name = false) :
    Restores depth (f <*> .optional name read) (members ++ [(name, v)]) (g o) := hf.andField name (some none) h hnew

theorem record {f : Fields α} {members : List (String × Value)} {a : α} (wanted : String)
    (h : Restores depth f members a) : Json.Restores (depth + 1) (f.record wanted) (.object members) a :=
  h.finds.record wanted

theorem objectOnly {f : Fields α} {members : List (String × Value)} {a : α} (wanted : String)
    (h : Restores depth f members a) : Json.Restores (depth + 1) (f.objectOnly wanted) (.object members) a :=
  ⟨(h.record wanted).plain, (h.record wanted).reads⟩

end Restores

end Fields

/-! ## Alternatives -/

theorem readKey_spelling (name : String) : readKey (.scalar (.string (spelling name))) = .ok name :=
  readKey_eq_ok_iff.2 (named_spelling name)

theorem memberName_spelling (name : String) : memberName (.scalar (.string (spelling name))) = .ok name :=
  within_eq_ok.2 (readKey_spelling name)

theorem pick_of_lookup {κ : Type} {table : List (String × κ)} {name : String} {k : κ}
    (h : table.lookup name = some k) : pick table name = .ok k := by
  unfold pick
  rw [h]

theorem pickFrom_spelling {κ : Type} {table : List (String × κ)} {name : String} {k : κ}
    (h : table.lookup name = some k) : pickFrom table (.scalar (.string (spelling name))) = .ok k :=
  bind_eq_ok.2 ⟨name, Spelling.read_eq_ok_iff.2 (spells_spelling name), pick_of_lookup h⟩

theorem lookup_map {κ : Type} {table : List (String × κ)} {key : String} {k : κ} (f : κ → α)
    (h : table.lookup key = some k) : (table.map fun (name, k) => (name, f k)).lookup key = some (f k) := by
  induction table with
  | nil => cases h
  | cons entry table ih =>
    obtain ⟨other, k'⟩ := entry
    rw [List.map_cons, List.lookup_cons]
    rw [List.lookup_cons] at h
    split
    · rename_i heq
      rw [heq] at h
      rw [Option.some.inj h]
    · rename_i heq
      rw [heq] at h
      exact ih h

namespace Restores

variable {depth : Nat} {table : List (String × Alternative α)} {key : String}

/-- An alternative that is written as its name. -/
theorem named {wanted : String} {a : α} (h : table.lookup key = some (.bare wanted a)) :
    Restores depth (.choice table) (.string key) a := by
  have hread : ((spelling key).read >>= fun text => pick table text >>= Alternative.named) = Except.ok a :=
    bind_eq_ok.2 ⟨key, Spelling.read_eq_ok_iff.2 (spells_spelling key), bind_eq_ok.2 ⟨_, pick_of_lookup h, rfl⟩⟩
  refine ⟨.string key, fun ctx _ => ?_⟩
  unfold Decoder.choice
  split
  · exact hread
  · exact hread

/-- An alternative that is written as the only member of an object. -/
theorem carrying {read : Decoder α} {v : Value} {a : α} (h : table.lookup key = some (.carrying read))
    (hv : Restores depth read v a) : Restores (depth + 1) (.choice table) (.object [(key, v)]) a := by
  refine .bracketed (.object (List.forall_mem_singleton.2 hv.plain)) fun depth' origin hle => ?_
  rw [Value.node, Value.memberNodes_eq_map]
  unfold Decoder.choice
  split
  · refine bind_eq_ok.2 ⟨key, readKey_spelling key, bind_eq_ok.2 ⟨_, pick_of_lookup h, ?_⟩⟩
    exact bind_eq_ok.2 ⟨a, within_eq_ok.2 (hv.reads _ hle), rfl⟩
  · refine bind_eq_ok.2 ⟨key, readKey_spelling key, bind_eq_ok.2 ⟨_, pick_of_lookup h, ?_⟩⟩
    exact hv.reads _ (Nat.le_succ_of_le hle)

/-- One of some names. -/
theorem name {table : List (String × α)} {a : α} (h : table.lookup key = some a) :
    Restores depth (.name table) (.string key) a :=
  named (lookup_map (Alternative.bare "unit") h)

/-! ### Name and value side by side -/

theorem nextPart_tag {t : Decoder.Tagging} {stop : Option Fault} (h : key = t.tag) (n : Node)
    (rest : List (Key × Node)) :
    Decoder.nextPart t stop ((.scalar (.string (spelling key)), n) :: rest) = .ok (some (.tag, n, rest)) := by
  refine bind_eq_ok.2 ⟨key, memberName_spelling key, ?_⟩
  rw [if_pos h]
  rfl

theorem nextPart_content {t : Decoder.Tagging} {stop : Option Fault} (h : key = t.content)
    (hne : t.content ≠ t.tag) (n : Node) (rest : List (Key × Node)) :
    Decoder.nextPart t stop ((.scalar (.string (spelling key)), n) :: rest) =
      .ok (some (.content, n, rest)) := by
  refine bind_eq_ok.2 ⟨key, memberName_spelling key, ?_⟩
  rw [if_neg (by rwa [h]), if_pos h]
  rfl

/-- An alternative of a tagged record to which no value belongs. -/
theorem taggedName {t : Decoder.Tagging} {wanted : String} {a : α} (h : table.lookup key = some (.bare wanted a)) :
    Restores (depth + 1) (.tagged t table) (.object [(t.tag, .string key)]) a := by
  have htag : Restores depth (Decoder.tagOf table) (.string key) (Alternative.bare wanted a) := Restores.name h
  refine .bracketed (.object (List.forall_mem_singleton.2 htag.plain)) fun depth' origin hle => ?_
  rw [Value.node, Value.memberNodes_eq_map]
  refine bind_eq_ok.2 ⟨_, nextPart_tag rfl _ _, ?_⟩
  refine bind_eq_ok.2 ⟨_, within_eq_ok.2 (htag.reads _ hle), ?_⟩
  exact bind_eq_ok.2 ⟨none, rfl, rfl⟩

/-- An alternative of a tagged record, with the value that belongs to it. -/
theorem taggedContent {t : Decoder.Tagging} (ht : t.content ≠ t.tag) {read : Decoder α} {v : Value} {a : α}
    (h : table.lookup key = some (.carrying read)) (hv : Restores depth read v a) :
    Restores (depth + 1) (.tagged t table) (.object [(t.tag, .string key), (t.content, v)]) a := by
  have htag : Restores depth (Decoder.tagOf table) (.string key) (Alternative.carrying read) := Restores.name h
  have hplain : ∀ m ∈ [(t.tag, Value.string key), (t.content, v)], m.2.Plain depth :=
    List.forall_mem_cons.2 ⟨htag.plain, List.forall_mem_singleton.2 hv.plain⟩
  refine .bracketed (.object hplain) fun depth' origin hle => ?_
  rw [Value.node, Value.memberNodes_eq_map]
  refine bind_eq_ok.2 ⟨_, nextPart_tag rfl _ _, ?_⟩
  refine bind_eq_ok.2 ⟨_, within_eq_ok.2 (htag.reads _ hle), ?_⟩
  refine bind_eq_ok.2 ⟨_, nextPart_content rfl ht _ _, ?_⟩
  refine bind_eq_ok.2 ⟨a, within_eq_ok.2 (hv.reads _ hle), ?_⟩
  exact bind_eq_ok.2 ⟨(), rfl, rfl⟩

/-! ### Name among the fields -/

theorem mergedMembers_others {tag : String} {table : List (String × Decoder α)} {ctx : Context}
    {found : Option (Decoder α)} {members : List (String × Value)} (hlacks : tag ∉ members.map (·.1))
    (hplain : ∀ m ∈ members, m.2.Plain ctx.depth) (others : List (Key × Node)) :
    Decoder.mergedMembers tag table ctx found others (Value.memberNodes members) =
      .ok (found, (Value.memberNodes members).reverse ++ others) := by
  induction members generalizing others with
  | nil => rfl
  | cons m members ih =>
    rw [List.map_cons, List.mem_cons, not_or] at hlacks
    obtain ⟨hfirst, hrest⟩ := List.forall_mem_cons.1 hplain
    obtain ⟨_, hvalue⟩ := exists_value_iff.2 hfirst.readable
    rw [Value.memberNodes]
    refine bind_eq_ok.2 ⟨m.1, memberName_spelling m.1, ?_⟩
    rw [if_neg fun heq => hlacks.1 heq.symm]
    refine bind_eq_ok.2 ⟨_, within_eq_ok.2 hvalue, ?_⟩
    rw [ih hlacks.2 hrest, List.reverse_cons, List.append_assoc, List.singleton_append]

/-- An alternative that is written as its name in front of its own members. -/
theorem merged {tag wanted : String} {table : List (String × Decoder α)} {read : Decoder α}
    {members : List (String × Value)} {a : α} (h : table.lookup key = some read) (hlacks : tag ∉ members.map (·.1))
    (hplain : ∀ m ∈ members, m.2.Plain depth) (hmembers : Restores (depth + 1) read (.object members) a) :
    Restores (depth + 1) (.merged wanted tag table) (.object ((tag, .string key) :: members)) a := by
  refine .bracketed (.object (List.forall_mem_cons.2 ⟨.string key, hplain⟩)) fun depth' origin hle => ?_
  have hothers : Decoder.mergedMembers tag table ⟨depth', origin⟩ (some read) [] (Value.memberNodes members) = _ :=
    mergedMembers_others hlacks (fun m hm => (hplain m hm).mono hle) []
  rw [Value.node, Value.memberNodes]
  refine bind_eq_ok.2 ⟨(some read, (Value.memberNodes members).reverse ++ []), ?_, ?_⟩
  · refine bind_eq_ok.2 ⟨(some read, (Value.memberNodes members).reverse ++ []), ?_, rfl⟩
    refine bind_eq_ok.2 ⟨tag, memberName_spelling tag, ?_⟩
    rw [if_pos rfl]
    exact bind_eq_ok.2 ⟨read, within_eq_ok.2 (pickFrom_spelling h), hothers⟩
  · have hread := hmembers.reads (Context.recall ⟨depth' + 1, origin⟩) (Nat.succ_le_succ hle)
    rw [Value.node] at hread
    rw [List.append_nil]
    dsimp only
    rwa [List.reverse_reverse]

end Restores

end CommentBot.Json
