import CommentBot.Proofs.Json.Tokens

/-!
# Texts and trees

1. `parse_of_isTextOf`: a text of a value is read as that value. A builder that expects a phrase has read it when
   the phrase ends, whatever comes next (`Phrase.Written.reads`).
2. `isTextOf_of_parse`: a text that is read without a fault, and to its end, is one of the value read. A phrase is
   cut off where the builder has read it (`value_cut`, `items_cut`, `members_cut`); from any fault on, the outcome
   keeps it (`not_sound_abandon`).
-/

namespace CommentBot.Json

namespace Builder

/-! ## Steps -/

theorem run_settled (d : Document) (octets : List UInt8) : (settled d).run octets = d := by
  cases octets with
  | nil => rw [run, finish]
  | cons c rest => rw [run]

theorem run_space {c : UInt8} (hc : isSpace c = true) (b : Builder) (rest : List UInt8) :
    b.run (c :: rest) = b.run rest := by
  cases b
  case settled d => rw [run_settled, run_settled]
  all_goals
    rw [run, if_pos hc]
    intro d h
    cases h

theorem run_token {c : UInt8} (hc : isSpace c = false) (b : Builder) (rest : List UInt8) :
    b.run (c :: rest) = (b.feed (Token.scan c rest).1).run (Token.scan c rest).2 := by
  cases b
  case settled d => rw [run_settled, feed, run_settled]
  all_goals
    rw [run, if_neg (by simp [hc])]
    intro d h
    cases h

theorem run_blank {t : List UInt8} (h : Blank t) (b : Builder) (rest : List UInt8) :
    b.run (t ++ rest) = b.run rest := by
  induction t with
  | nil => rfl
  | cons c t ih =>
    rw [List.cons_append, run_space (h c List.mem_cons_self), ih fun c hc => h c (List.mem_cons_of_mem _ hc)]

/-- A value is due, inside the brackets on the stack. -/
def Expects : Builder → List Frame → Prop
  | value stack, s => s = stack
  | firstItem stack, s => s = .array [] :: stack
  | _, _ => False

/-- A key is due, behind some members. -/
def ExpectsKey : Builder → List Frame → List (Key × Node) → Prop
  | nextKey stack members, s, ms => s = stack ∧ ms = members
  | firstKey stack, s, ms => s = stack ∧ ms = []
  | _, _, _ => False

theorem feed_of_expects {b : Builder} {stack : List Frame} (h : b.Expects stack) (token : Token)
    (htoken : token ≠ .closeArray) : b.feed token = feedValue stack token := by
  cases b <;> cases h
  · rfl
  · cases token
    case closeArray => exact absurd rfl htoken
    all_goals rfl

theorem feed_of_expectsKey {b : Builder} {stack : List Frame} {members : List (Key × Node)}
    (h : b.ExpectsKey stack members) (token : Token) (htoken : token ≠ .closeObject) :
    b.feed token = feedKey stack members token := by
  cases b <;> obtain ⟨rfl, rfl⟩ := h
  · cases token
    case closeObject => exact absurd rfl htoken
    all_goals rfl
  · rfl

end Builder

open Builder

/-! ## Texts are read -/

theorem endsNumber_nil : EndsNumber [] := fun _ hc => nomatch hc

theorem endsNumber_cons {c : UInt8} (hc : isDigit c = false ∧ c ≠ 46 ∧ c ≠ 101 ∧ c ≠ 69) (rest : List UInt8) :
    EndsNumber (c :: rest) := by
  intro c' hc'
  obtain rfl := Option.some.inj hc'
  exact hc

theorem endsNumber_blank {t rest : List UInt8} (ht : Blank t) (h : EndsNumber rest) : EndsNumber (t ++ rest) := by
  cases t with
  | nil => exact h
  | cons c t =>
    have hc := ht c List.mem_cons_self
    simp only [isSpace, Bool.or_eq_true, decide_eq_true_eq] at hc
    refine endsNumber_cons ?_ _
    rcases hc with ((rfl | rfl) | rfl) | rfl <;> decide

/-- Whoever expects the phrase has read it when it ends. -/
def Phrase.Reads : Phrase → List UInt8 → Prop
  | value n, t => ∀ b stack rest, Expects b stack → EndsNumber rest →
      b.run (t ++ rest) = (complete n stack).run rest
  | padded n, t => ∀ b stack rest, Expects b stack → EndsNumber rest →
      b.run (t ++ rest) = (complete n stack).run rest
  | items ns, t => ∀ b stack done rest, Expects b (.array done :: stack) →
      b.run (t ++ 93 :: rest) = (complete (.array (done.reverse ++ ns) none) stack).run rest
  | members ms, t => ∀ b stack done rest, ExpectsKey b stack done →
      b.run (t ++ 125 :: rest) = (complete (.object (done.reverse ++ ms) none) stack).run rest

theorem KeyWritten.reads {key : Key} {k : List UInt8} (h : KeyWritten key k) {b : Builder}
    {stack : List Frame} {done : List (Key × Node)} (hb : ExpectsKey b stack done) (rest : List UInt8) :
    b.run (k ++ 58 :: rest) = (Builder.value (.object done key :: stack)).run rest := by
  cases h with
  | @string ps before t after hbefore hps hafter =>
    have hscan := Spelling.scanFrom_written hps [] (after ++ 58 :: rest)
    rw [List.append_assoc, run_blank hbefore, List.cons_append, List.append_assoc, List.cons_append,
      run_token (by decide)]
    rw [show Token.scan 34 (t ++ 34 :: (after ++ 58 :: rest)) =
      (.scalar (.string ⟨ps, none⟩), after ++ 58 :: rest) by
        show (_, _) = _
        rw [Spelling.scan, hscan]
        rfl]
    dsimp only
    rw [feed_of_expectsKey hb (.scalar _) (fun h => by cases h)]
    show (colon stack done (.scalar (.string ⟨ps, none⟩))).run (after ++ 58 :: rest) = _
    rw [run_blank hafter, run_token (by decide)]
    rfl

/-- What is left to read of an array behind its opening bracket. -/
theorem run_openArray {b : Builder} {stack : List Frame} (hb : Expects b stack) (t rest : List UInt8) :
    b.run (91 :: (t ++ [93]) ++ rest) = (firstItem stack).run (t ++ 93 :: rest) := by
  rw [List.cons_append, List.append_assoc, run_token (by decide)]
  show (b.feed .openArray).run (t ++ 93 :: rest) = _
  rw [feed_of_expects hb .openArray (by nofun)]
  rfl

/-- What is left to read of an object behind its opening bracket. -/
theorem run_openObject {b : Builder} {stack : List Frame} (hb : Expects b stack) (t rest : List UInt8) :
    b.run (123 :: (t ++ [125]) ++ rest) = (firstKey stack).run (t ++ 125 :: rest) := by
  rw [List.cons_append, List.append_assoc, run_token (by decide)]
  show (b.feed .openObject).run (t ++ 125 :: rest) = _
  rw [feed_of_expects hb .openObject (by nofun)]
  rfl

theorem Phrase.Written.reads {p : Phrase} {t : List UInt8} (h : p.Written t) : p.Reads t := by
  -- the stack and what follows the phrase are arbitrary in each case, so a part is read inside its brackets
  induction h with
  | @scalar s t h =>
    intro b stack rest hb hrest
    obtain ⟨c, t', rfl, hspace, hscan⟩ := Token.scan_scalar_written h hrest
    have hfault : s.fault? = none := by cases h <;> rfl
    rw [List.cons_append, run_token hspace, hscan]
    dsimp only
    rw [feed_of_expects hb (.scalar s) (by nofun)]
    unfold feedValue
    dsimp only
    rw [hfault]
  | emptyArray h =>
    intro b stack rest hb hrest
    rw [run_openArray hb, run_blank h, run_token (by decide)]
    rfl
  | array h ih =>
    intro b stack rest hb hrest
    rw [run_openArray hb]
    exact ih (firstItem stack) stack [] rest rfl
  | emptyObject h =>
    intro b stack rest hb hrest
    rw [run_openObject hb, run_blank h, run_token (by decide)]
    rfl
  | object h ih =>
    intro b stack rest hb hrest
    rw [run_openObject hb]
    exact ih (firstKey stack) stack [] rest ⟨rfl, rfl⟩
  | padded hbefore h hafter ih =>
    intro b stack rest hb hrest
    rw [List.append_assoc, run_blank hbefore, List.append_assoc,
      ih b stack _ hb (endsNumber_blank hafter hrest), run_blank hafter]
  | lastItem h ih =>
    intro b stack done rest hb
    rw [ih b _ _ hb (endsNumber_cons (by decide) _)]
    show (afterItem stack _).run (93 :: rest) = _
    rw [run_token (by decide), ← List.reverse_cons]
    rfl
  | @item n ns t more h hmore ih ihmore =>
    intro b stack done rest hb
    rw [List.append_assoc, List.cons_append, ih b _ _ hb (endsNumber_cons (by decide) _)]
    show (afterItem stack (n :: done)).run (44 :: (more ++ 93 :: rest)) = _
    rw [run_token (by decide)]
    have hrest := ihmore (Builder.value (.array (n :: done) :: stack)) stack (n :: done) rest rfl
    rw [List.reverse_cons, List.append_assoc, List.singleton_append] at hrest
    exact hrest
  | @lastMember key n k t hkey h ih =>
    intro b stack done rest hb
    rw [List.append_assoc, List.cons_append, hkey.reads hb,
      ih (Builder.value (.object done key :: stack)) _ _ rfl (endsNumber_cons (by decide) _)]
    show (afterMember stack ((key, n) :: done)).run (125 :: rest) = _
    rw [run_token (by decide), ← List.reverse_cons]
    rfl
  | @member key n ms k t more hkey h hmore ih ihmore =>
    intro b stack done rest hb
    rw [List.append_assoc, List.cons_append, List.append_assoc, List.cons_append, hkey.reads hb,
      ih (Builder.value (.object done key :: stack)) _ _ rfl (endsNumber_cons (by decide) _)]
    show (afterMember stack ((key, n) :: done)).run (44 :: (more ++ 125 :: rest)) = _
    rw [run_token (by decide)]
    have hrest := ihmore (nextKey stack ((key, n) :: done)) stack ((key, n) :: done) rest ⟨rfl, rfl⟩
    rw [List.reverse_cons, List.append_assoc, List.singleton_append] at hrest
    exact hrest

/-- A text of a value is read as that value. -/
theorem parse_of_isTextOf {n : Node} {octets : List UInt8} (h : n.IsTextOf octets) :
    Document.parse octets = ⟨n, false⟩ := by
  have hrun := Phrase.Written.reads h (Builder.value []) [] [] rfl endsNumber_nil
  rw [List.append_nil] at hrun
  rw [Document.parse, hrun, run]
  rfl

/-! ## What is read was written -/

/-- The text was read to its end, and without a fault. -/
def Document.Sound (d : Document) : Prop := d.root.fault? = none ∧ d.surplus = false

/-- Brackets around a fault keep it. -/
theorem fault?_abandon {fault : Fault} {node : Node} (h : node.fault? ≠ none) (stack : List Frame) :
    (abandon fault node stack).fault? ≠ none := by
  induction stack generalizing node with
  | nil => exact h
  | cons frame stack ih =>
    cases frame with
    | array items => exact @ih (.array (node :: items).reverse (some fault)) (by nofun)
    | object members key => exact @ih (.object ((key, node) :: members).reverse (some fault)) (by nofun)

theorem not_sound_abandon {fault : Fault} {node : Node} (h : node.fault? ≠ none) (stack : List Frame)
    (surplus : Bool) : ¬ Document.Sound ⟨abandon fault node stack, surplus⟩ :=
  fun hsound => fault?_abandon h stack hsound.1

theorem not_sound_cutBefore (stack : List Frame) (fault : Fault) : ¬ (Document.cutBefore stack fault).Sound :=
  not_sound_abandon (by nofun) stack false

theorem not_sound_stopAt {stack : List Frame} {node : Node} {fault : Fault} (h : node.fault? ≠ none)
    (rest : List UInt8) : ¬ ((stopAt stack node fault).run rest).Sound := by
  unfold stopAt
  rw [run_settled]
  exact not_sound_abandon h stack false

theorem not_sound_stopBefore (stack : List Frame) (fault : Fault) (rest : List UInt8) :
    ¬ ((stopBefore stack fault).run rest).Sound := by
  unfold stopBefore
  exact not_sound_stopAt (by nofun) rest

/-- Where a value is due the text cannot end. -/
theorem not_sound_finish_value (stack : List Frame) : ¬ (Builder.value stack).finish.Sound := by
  unfold Builder.finish
  dsimp only
  split
  · exact not_sound_cutBefore stack _
  · exact not_sound_abandon (by nofun) stack false

theorem not_sound_refuse (stack : List Frame) (token : Token) (rest : List UInt8) :
    ¬ ((refuse stack token).run rest).Sound := by
  unfold refuse
  split
  · exact not_sound_stopBefore stack _ rest
  · exact not_sound_stopAt (by nofun) rest

/-- Blanks at the front of a text, and the first character behind them. -/
theorem blank_or_token (octets : List UInt8) : Blank octets ∨
    ∃ before c rest, Blank before ∧ isSpace c = false ∧ octets = before ++ c :: rest := by
  induction octets with
  | nil => exact .inl (by nofun)
  | cons c octets ih =>
    cases hc : isSpace c with
    | false => exact .inr ⟨[], c, octets, by nofun, hc, rfl⟩
    | true =>
      rcases ih with h | ⟨before, c', rest, hbefore, hc', rfl⟩
      · exact .inl (List.forall_mem_cons.2 ⟨hc, h⟩)
      · exact .inr ⟨c :: before, c', rest, List.forall_mem_cons.2 ⟨hc, hbefore⟩, hc', rfl⟩

theorem run_of_blank {octets : List UInt8} (h : Blank octets) (b : Builder) : b.run octets = b.finish := by
  have hrun := run_blank h b []
  rw [List.append_nil] at hrun
  rw [hrun, run]

/-- The next token of a text: the blanks in front of it, its first character and what follows it. -/
structure NextToken (octets before : List UInt8) (c : UInt8) (behind : List UInt8) (token : Token)
    (rest : List UInt8) : Prop where
  blank : Blank before
  octets : octets = before ++ c :: behind
  scan : Token.scan c behind = (token, rest)

/-- Who cannot end reads a token. -/
theorem token_due {b : Builder} {octets : List UInt8} (h : (b.run octets).Sound) (hb : ¬ b.finish.Sound) :
    ∃ before c behind token rest, NextToken octets before c behind token rest ∧
      (b.feed token).run rest = b.run octets := by
  rcases blank_or_token octets with hblank | ⟨before, c, behind, hbefore, hc, rfl⟩
  · rw [run_of_blank hblank] at h
    exact absurd h hb
  · refine ⟨before, c, behind, (Token.scan c behind).1, (Token.scan c behind).2, ⟨hbefore, rfl, rfl⟩, ?_⟩
    rw [run_blank hbefore, run_token hc]

/-- A token of one character and what follows it. -/
theorem NextToken.punctuation {octets before behind rest : List UInt8} {c : UInt8} {token : Token}
    (h : NextToken octets before c behind token rest) (htoken : ∀ s, token ≠ .scalar s) :
    punctuation? c = some token ∧ octets = before ++ c :: rest := by
  obtain ⟨hpunctuation, rfl⟩ := Token.eq_of_scan h.scan htoken
  exact ⟨hpunctuation, h.octets⟩

/-- A scalar without a fault and what follows it. -/
theorem NextToken.scalar {octets before behind rest : List UInt8} {c : UInt8} {s : Scalar}
    (h : NextToken octets before c behind (.scalar s) rest) (hs : s.fault? = none) :
    ∃ t, s.Written t ∧ octets = before ++ (t ++ rest) := by
  obtain ⟨t, ht, hbehind⟩ := Token.written_of_scan h.scan hs
  exact ⟨t, ht, by rw [h.octets, hbehind]⟩

/-! ### Parts of phrases -/

/-- Behind an item the array ends or goes on. -/
theorem afterItem_cut {octets : List UInt8} {stack : List Frame} {done : List Node}
    (h : ((afterItem stack done).run octets).Sound) : ∃ after rest, Blank after ∧
      (octets = after ++ 93 :: rest ∧
          (complete (.array done.reverse none) stack).run rest = (afterItem stack done).run octets ∨
        octets = after ++ 44 :: rest ∧
          (Builder.value (.array done :: stack)).run rest = (afterItem stack done).run octets) := by
  obtain ⟨after, c, behind, token, rest, htoken, hrun⟩ := token_due h (not_sound_abandon (by nofun) _ _)
  refine ⟨after, rest, htoken.blank, ?_⟩
  cases token with
  | closeArray =>
    obtain ⟨hpunctuation, hoctets⟩ := htoken.punctuation (by nofun)
    obtain rfl : c = 93 := by simpa using eq_of_punctuation? hpunctuation
    exact .inl ⟨hoctets, hrun⟩
  | comma =>
    obtain ⟨hpunctuation, hoctets⟩ := htoken.punctuation (by nofun)
    obtain rfl : c = 44 := by simpa using eq_of_punctuation? hpunctuation
    exact .inr ⟨hoctets, hrun⟩
  | scalar s | openArray | openObject | closeObject | colon =>
    rw [← hrun] at h
    exact absurd h (not_sound_stopAt (by nofun) _)

/-- Behind a member the object ends or goes on. -/
theorem afterMember_cut {octets : List UInt8} {stack : List Frame} {done : List (Key × Node)}
    (h : ((afterMember stack done).run octets).Sound) : ∃ after rest, Blank after ∧
      (octets = after ++ 125 :: rest ∧
          (complete (.object done.reverse none) stack).run rest = (afterMember stack done).run octets ∨
        octets = after ++ 44 :: rest ∧
          (nextKey stack done).run rest = (afterMember stack done).run octets) := by
  obtain ⟨after, c, behind, token, rest, htoken, hrun⟩ := token_due h (not_sound_abandon (by nofun) _ _)
  refine ⟨after, rest, htoken.blank, ?_⟩
  cases token with
  | closeObject =>
    obtain ⟨hpunctuation, hoctets⟩ := htoken.punctuation (by nofun)
    obtain rfl : c = 125 := by simpa using eq_of_punctuation? hpunctuation
    exact .inl ⟨hoctets, hrun⟩
  | comma =>
    obtain ⟨hpunctuation, hoctets⟩ := htoken.punctuation (by nofun)
    obtain rfl : c = 44 := by simpa using eq_of_punctuation? hpunctuation
    exact .inr ⟨hoctets, hrun⟩
  | scalar s | openArray | openObject | closeArray | colon =>
    rw [← hrun] at h
    exact absurd h (not_sound_stopAt (by nofun) _)

/-- Behind a key there is a colon. -/
theorem colon_cut {octets : List UInt8} {stack : List Frame} {done : List (Key × Node)} {key : Token}
    (h : ((colon stack done key).run octets).Sound) : ∃ after rest, Blank after ∧ octets = after ++ 58 :: rest ∧
      (Builder.value (.object done key :: stack)).run rest = (colon stack done key).run octets := by
  obtain ⟨after, c, behind, token, rest, htoken, hrun⟩ :=
    token_due h (not_sound_cutBefore _ _)
  refine ⟨after, rest, htoken.blank, ?_⟩
  cases token with
  | colon =>
    obtain ⟨hpunctuation, hoctets⟩ := htoken.punctuation (by nofun)
    obtain rfl : c = 58 := by simpa using eq_of_punctuation? hpunctuation
    exact ⟨hoctets, hrun⟩
  | scalar s | openArray | openObject | closeArray | closeObject | comma =>
    rw [← hrun] at h
    exact absurd h (not_sound_stopBefore _ _ _)

/-- A key is cut off with its colon. -/
theorem key_cut {octets : List UInt8} {stack : List Frame} {done : List (Key × Node)}
    (h : ((nextKey stack done).run octets).Sound) : ∃ key k rest, KeyWritten key k ∧ octets = k ++ 58 :: rest ∧
      (Builder.value (.object done key :: stack)).run rest = (nextKey stack done).run octets := by
  obtain ⟨before, c, behind, token, rest, htoken, hrun⟩ :=
    token_due h (not_sound_cutBefore _ _)
  rw [← hrun] at h
  match token, htoken, hrun, h with
  | .scalar (.string ⟨ps, none⟩), htoken, hrun, h =>
    obtain ⟨after, rest', hafter, rfl, hvalue⟩ := colon_cut h
    obtain ⟨t, ht, hoctets⟩ := htoken.scalar rfl
    cases ht with
    | string hps =>
      refine ⟨_, _, rest', .string htoken.blank hps hafter, ?_, hvalue.trans hrun⟩
      rw [hoctets]
      simp
  | .scalar (.string ⟨ps, some f⟩), _, _, h => exact absurd h (not_sound_stopBefore _ _ _)
  | .scalar .null, _, _, h => exact absurd h (not_sound_stopBefore _ _ _)
  | .scalar (.bool _), _, _, h => exact absurd h (not_sound_stopBefore _ _ _)
  | .scalar (.number _), _, _, h => exact absurd h (not_sound_stopBefore _ _ _)
  | .scalar (.garbled _), _, _, h => exact absurd h (not_sound_stopBefore _ _ _)
  | .scalar .missing, _, _, h => exact absurd h (not_sound_stopBefore _ _ _)
  | .scalar (.unreached _), _, _, h => exact absurd h (not_sound_stopBefore _ _ _)
  | .openArray, _, _, h => exact absurd h (not_sound_stopBefore _ _ _)
  | .closeArray, _, _, h => exact absurd h (not_sound_stopBefore _ _ _)
  | .openObject, _, _, h => exact absurd h (not_sound_stopBefore _ _ _)
  | .closeObject, _, _, h => exact absurd h (not_sound_stopBefore _ _ _)
  | .comma, _, _, h => exact absurd h (not_sound_stopBefore _ _ _)
  | .colon, _, _, h => exact absurd h (not_sound_stopBefore _ _ _)

/-- An array ends behind its bracket, or its first item is due. -/
theorem firstItem_cases {stack : List Frame} {octets : List UInt8} (h : ((firstItem stack).run octets).Sound) :
    (∃ before rest, Blank before ∧ octets = before ++ 93 :: rest ∧
      (complete (.array [] none) stack).run rest = (firstItem stack).run octets) ∨
    (Builder.value (.array [] :: stack)).run octets = (firstItem stack).run octets := by
  rcases blank_or_token octets with hblank | ⟨before, c, behind, hbefore, hc, rfl⟩
  · rw [run_of_blank hblank] at h
    exact absurd h (not_sound_cutBefore _ _)
  · by_cases htoken : (Token.scan c behind).1 = .closeArray
    · obtain ⟨hpunctuation, hrest⟩ := Token.eq_of_scan (Prod.ext htoken rfl) (by nofun)
      obtain rfl : c = 93 := by simpa using eq_of_punctuation? hpunctuation
      refine .inl ⟨before, behind, hbefore, rfl, ?_⟩
      rw [run_blank hbefore, run_token hc]
      rfl
    · refine .inr ?_
      rw [run_blank hbefore, run_token hc, run_blank hbefore, run_token hc,
        feed_of_expects (b := firstItem stack) rfl _ htoken]
      rfl

/-- An object ends behind its bracket, or its first key is due. -/
theorem firstKey_cases {stack : List Frame} {octets : List UInt8} (h : ((firstKey stack).run octets).Sound) :
    (∃ before rest, Blank before ∧ octets = before ++ 125 :: rest ∧
      (complete (.object [] none) stack).run rest = (firstKey stack).run octets) ∨
    (nextKey stack []).run octets = (firstKey stack).run octets := by
  rcases blank_or_token octets with hblank | ⟨before, c, behind, hbefore, hc, rfl⟩
  · rw [run_of_blank hblank] at h
    exact absurd h (not_sound_cutBefore _ _)
  · by_cases htoken : (Token.scan c behind).1 = .closeObject
    · obtain ⟨hpunctuation, hrest⟩ := Token.eq_of_scan (Prod.ext htoken rfl) (by nofun)
      obtain rfl : c = 125 := by simpa using eq_of_punctuation? hpunctuation
      refine .inl ⟨before, behind, hbefore, rfl, ?_⟩
      rw [run_blank hbefore, run_token hc]
      rfl
    · refine .inr ?_
      rw [run_blank hbefore, run_token hc, run_blank hbefore, run_token hc,
        feed_of_expectsKey (b := firstKey stack) ⟨rfl, rfl⟩ _ htoken]
      rfl

/-! ### Whole phrases -/

/-- Where a value is due, one is written. -/
def ValueCut (octets : List UInt8) : Prop :=
  ∀ stack, ((Builder.value stack).run octets).Sound → ∃ n before t rest, Blank before ∧
    Phrase.Written (.value n) t ∧ octets = before ++ (t ++ rest) ∧
      (complete n stack).run rest = (Builder.value stack).run octets

/-- Where an item is due, the rest of the array is written. -/
def ItemsCut (octets : List UInt8) : Prop :=
  ∀ stack done, ((Builder.value (.array done :: stack)).run octets).Sound → ∃ ns t rest,
    Phrase.Written (.items ns) t ∧ octets = t ++ 93 :: rest ∧
      (complete (.array (done.reverse ++ ns) none) stack).run rest =
        (Builder.value (.array done :: stack)).run octets

/-- Where a key is due, the rest of the object is written. -/
def MembersCut (octets : List UInt8) : Prop :=
  ∀ stack done, ((nextKey stack done).run octets).Sound → ∃ ms t rest,
    Phrase.Written (.members ms) t ∧ octets = t ++ 125 :: rest ∧
      (complete (.object (done.reverse ++ ms) none) stack).run rest = (nextKey stack done).run octets

theorem value_cut {octets : List UInt8} (hitems : ∀ shorter, shorter.length < octets.length → ItemsCut shorter)
    (hmembers : ∀ shorter, shorter.length < octets.length → MembersCut shorter) : ValueCut octets := by
  intro stack h
  obtain ⟨before, c, behind, token, rest, htoken, hrun⟩ := token_due h (not_sound_finish_value stack)
  rw [← hrun] at h ⊢
  cases token with
  | scalar s =>
    cases hfault : s.fault? with
    | some f =>
      have hfeed : (Builder.value stack).feed (.scalar s) = stopAt stack (.scalar s) f := by
        simp only [feed, feedValue, hfault]
      rw [hfeed] at h
      exact absurd h (not_sound_stopAt (by rw [Node.fault?, hfault]; nofun) _)
    | none =>
      obtain ⟨t, ht, hoctets⟩ := htoken.scalar hfault
      refine ⟨.scalar s, before, t, rest, htoken.blank, .scalar ht, hoctets, ?_⟩
      simp only [feed, feedValue, hfault]
  | openArray =>
    obtain ⟨hpunctuation, rfl⟩ := htoken.punctuation (by nofun)
    obtain rfl : c = 91 := by simpa using eq_of_punctuation? hpunctuation
    rw [show (Builder.value stack).feed .openArray = firstItem stack from rfl] at h ⊢
    rcases firstItem_cases h with ⟨blank, after, hblank, rfl, hfirst⟩ | hfirst
    · exact ⟨_, before, _, after, htoken.blank, .emptyArray hblank, by simp, hfirst⟩
    · -- the items stand behind the bracket, in a shorter text
      rw [← hfirst] at h ⊢
      obtain ⟨ns, t, after, ht, rfl, hrest⟩ := hitems rest (by simp; omega) stack [] h
      exact ⟨_, before, _, after, htoken.blank, .array ht, by simp, hrest⟩
  | openObject =>
    obtain ⟨hpunctuation, rfl⟩ := htoken.punctuation (by nofun)
    obtain rfl : c = 123 := by simpa using eq_of_punctuation? hpunctuation
    rw [show (Builder.value stack).feed .openObject = firstKey stack from rfl] at h ⊢
    rcases firstKey_cases h with ⟨blank, after, hblank, rfl, hfirst⟩ | hfirst
    · exact ⟨_, before, _, after, htoken.blank, .emptyObject hblank, by simp, hfirst⟩
    · rw [← hfirst] at h ⊢
      obtain ⟨ms, t, after, ht, rfl, hrest⟩ := hmembers rest (by simp; omega) stack [] h
      exact ⟨_, before, _, after, htoken.blank, .object ht, by simp, hrest⟩
  -- no other token begins a value, and a fault would not be forgotten
  | closeArray => exact absurd h (not_sound_refuse stack .closeArray rest)
  | closeObject => exact absurd h (not_sound_refuse stack .closeObject rest)
  | comma => exact absurd h (not_sound_refuse stack .comma rest)
  | colon => exact absurd h (not_sound_refuse stack .colon rest)

theorem items_cut {octets : List UInt8} (hvalue : ValueCut octets)
    (hitems : ∀ shorter, shorter.length < octets.length → ItemsCut shorter) : ItemsCut octets := by
  intro stack done h
  obtain ⟨n, before, t, rest, hbefore, ht, rfl, hrun⟩ := hvalue _ h
  rw [← hrun] at h ⊢
  rw [show complete n (.array done :: stack) = afterItem stack (n :: done) from rfl] at h ⊢
  obtain ⟨after, rest', hafter, ⟨rfl, hend⟩ | ⟨rfl, hmore⟩⟩ := afterItem_cut h
  · refine ⟨[n], _, rest', .lastItem (.padded hbefore ht hafter), by simp, ?_⟩
    rw [← hend, List.reverse_cons]
  · rw [← hmore] at h ⊢
    obtain ⟨ns, more, rest, hns, rfl, hend⟩ := hitems rest' (by simp; omega) stack (n :: done) h
    refine ⟨n :: ns, _, rest, .item (.padded hbefore ht hafter) hns, by simp, ?_⟩
    rw [← hend, List.reverse_cons, List.append_assoc, List.singleton_append]

theorem members_cut {octets : List UInt8} (hvalue : ∀ shorter, shorter.length < octets.length → ValueCut shorter)
    (hmembers : ∀ shorter, shorter.length < octets.length → MembersCut shorter) : MembersCut octets := by
  intro stack done h
  obtain ⟨key, k, behind, hkey, rfl, hcolon⟩ := key_cut h
  rw [← hcolon] at h ⊢
  obtain ⟨n, before, t, rest, hbefore, ht, rfl, hrun⟩ := hvalue behind (by simp; omega) _ h
  rw [← hrun] at h ⊢
  rw [show complete n (.object done key :: stack) = afterMember stack ((key, n) :: done) from rfl] at h ⊢
  obtain ⟨after, rest', hafter, ⟨rfl, hend⟩ | ⟨rfl, hmore⟩⟩ := afterMember_cut h
  · refine ⟨[(key, n)], _, rest', .lastMember hkey (.padded hbefore ht hafter), by simp, ?_⟩
    rw [← hend, List.reverse_cons]
  · rw [← hmore] at h ⊢
    obtain ⟨ms, more, rest, hms, rfl, hend⟩ := hmembers rest' (by simp; omega) stack ((key, n) :: done) h
    refine ⟨(key, n) :: ms, _, rest, .member hkey (.padded hbefore ht hafter) hms, by simp, ?_⟩
    rw [← hend, List.reverse_cons, List.append_assoc, List.singleton_append]

theorem cuts (octets : List UInt8) : ValueCut octets ∧ ItemsCut octets ∧ MembersCut octets := by
  induction hlength : octets.length using Nat.strongRecOn generalizing octets with
  | ind length ih =>
    subst hlength
    have hvalue : ValueCut octets :=
      value_cut (fun shorter hs => (ih _ hs shorter rfl).2.1) (fun shorter hs => (ih _ hs shorter rfl).2.2)
    refine ⟨hvalue, ?_, ?_⟩
    · exact items_cut hvalue fun shorter hs => (ih _ hs shorter rfl).2.1
    · exact members_cut (fun shorter hs => (ih _ hs shorter rfl).1) fun shorter hs => (ih _ hs shorter rfl).2.2

/-- Behind a whole value only blanks may follow. -/
theorem whole_cut {n : Node} {octets : List UInt8} (h : ((whole n).run octets).Sound) :
    Blank octets ∧ (whole n).run octets = ⟨n, false⟩ := by
  rcases blank_or_token octets with hblank | ⟨before, c, behind, hbefore, hc, rfl⟩
  · exact ⟨hblank, run_of_blank hblank _⟩
  · rw [run_blank hbefore, run_token hc, feed, run_settled] at h
    exact absurd h.2 (by nofun)

/-- A text that is read to its end and without a fault is one of the value read. -/
theorem isTextOf_of_parse {octets : List UInt8} (h : (Document.parse octets).Sound) :
    (Document.parse octets).root.IsTextOf octets := by
  unfold Document.parse at h ⊢
  obtain ⟨n, before, t, rest, hbefore, ht, hoctets, hrun⟩ := (cuts octets).1 [] h
  rw [← hrun] at h ⊢
  obtain ⟨hrest, hwhole⟩ := whole_cut h
  rw [show complete n [] = whole n from rfl, hwhole, hoctets]
  exact .padded hbefore ht hrest

end CommentBot.Json
