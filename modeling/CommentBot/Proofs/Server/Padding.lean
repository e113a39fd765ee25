import CommentBot.Proofs.Comment.Rendering
import CommentBot.Proofs.Server.Sessions

/-!
# Padded deliveries

Blanks behind a payload add nothing to it, but they make it longer, and a body that is too long is refused unread.

1. `isTextOf_append_blank`: octets write the same value with blanks behind them.
2. `ofPayload_append_blank`: so the same event is read from them, or none is (`broken_padded` and its neighbours).
3. `padding_neutral_iff`: a padded delivery has the same outcome exactly if it is not too long.
-/

namespace CommentBot.Json

/-! ## Blanks behind a text -/

/-- The octets end with one that is no blank. -/
def EndsSolid (t : List UInt8) : Prop := ∃ c, t.getLast? = some c ∧ isSpace c = false

theorem EndsSolid.append {t : List UInt8} (h : EndsSolid t) (before : List UInt8) : EndsSolid (before ++ t) := by
  obtain ⟨c, hlast, hc⟩ := h
  exact ⟨c, by rw [List.getLast?_append, hlast, Option.some_or], hc⟩

theorem endsSolid_singleton {c : UInt8} (hc : isSpace c = false) : EndsSolid [c] := ⟨c, rfl, hc⟩

theorem endsSolid_digits {digits : List Nat} (h : AreDigits digits) : EndsSolid (digitOctets digits) := by
  obtain ⟨hne, hsmall⟩ := h
  obtain ⟨before, d, rfl⟩ := (List.eq_nil_or_concat digits).resolve_left hne
  rw [List.concat_eq_append] at hsmall ⊢
  have hd : d < 10 := hsmall d (List.mem_append_right _ List.mem_cons_self)
  have hsolid : isSpace (UInt8.ofNat (48 + d)) = false := by
    interval_cases d <;> decide
  rw [digitOctets, List.map_append]
  exact (endsSolid_singleton hsolid).append _

theorem endsSolid_numeral {n : Numeral} {t : List UInt8} (h : n.Written t) : EndsSolid t := by
  obtain @⟨negative, whole, fraction, exponent, f, e, hwhole, hfraction, hexponent⟩ := h
  refine EndsSolid.append ?_ _
  cases hexponent with
  | @digits mark negative sign digits hmark hsign h =>
    exact (((endsSolid_digits h).append (mark :: sign)).append f).append _
  | absent =>
    rw [List.append_nil]
    cases hfraction with
    | @digits _ h => exact ((endsSolid_digits h).append [46]).append _
    | absent =>
      rw [List.append_nil]
      exact endsSolid_digits hwhole.1

theorem endsSolid_of_written {n : Node} {t : List UInt8} (h : Phrase.Written (.value n) t) : EndsSolid t := by
  cases h with
  | scalar h =>
    cases h with
    | null => exact ⟨108, rfl, rfl⟩
    | true => exact ⟨101, rfl, rfl⟩
    | false => exact ⟨101, rfl, rfl⟩
    | number h => exact endsSolid_numeral h
    | @string _ t h => exact (endsSolid_singleton rfl).append (34 :: t)
  | @emptyArray t h => exact (endsSolid_singleton rfl).append (91 :: t)
  | @array _ t h => exact (endsSolid_singleton rfl).append (91 :: t)
  | @emptyObject t h => exact (endsSolid_singleton rfl).append (123 :: t)
  | @object _ t h => exact (endsSolid_singleton rfl).append (123 :: t)

theorem Blank.append {t u : List UInt8} (ht : Blank t) (hu : Blank u) : Blank (t ++ u) := by
  intro c hc
  exact (List.mem_append.1 hc).elim (ht c) (hu c)

/-- Octets that end solidly do not end with blanks. -/
theorem EndsSolid.eq_nil {t pad : List UInt8} (h : EndsSolid (t ++ pad)) (hpad : Blank pad) : pad = [] := by
  obtain ⟨c, hlast, hc⟩ := h
  by_contra hne
  obtain ⟨before, d, rfl⟩ := (List.eq_nil_or_concat pad).resolve_left hne
  rw [List.concat_eq_append, ← List.append_assoc, List.getLast?_concat] at hlast
  obtain rfl := Option.some.inj hlast
  rw [hpad _ (by simp)] at hc
  cases hc

/-- Octets write the same with blanks behind them, and nothing else. -/
theorem isTextOf_append_blank {n : Node} {octets pad : List UInt8} (hpad : Blank pad) :
    n.IsTextOf (octets ++ pad) ↔ n.IsTextOf octets := by
  unfold Node.IsTextOf
  constructor
  · intro h
    generalize heq : octets ++ pad = whole at h
    cases h with
    | @padded _ before t after hbefore hvalue hafter =>
      have hsolid := (endsSolid_of_written hvalue).append before
      rw [← List.append_assoc] at heq
      obtain ⟨more, ht, rfl⟩ | ⟨more, rfl, rfl⟩ := List.append_eq_append_iff.1 heq
      · -- nothing of the value stands in the padding
        rw [ht] at hsolid
        obtain rfl := hsolid.eq_nil fun c hc => hpad c (List.mem_append_left _ hc)
        rw [List.append_nil] at ht
        rw [← ht, ← List.append_nil (before ++ t), List.append_assoc]
        exact .padded hbefore hvalue nofun
      · rw [List.append_assoc]
        exact .padded hbefore hvalue fun c hc => hafter c (List.mem_append_left _ hc)
  · intro h
    cases h with
    | @padded _ before t after hbefore hvalue hafter =>
      rw [List.append_assoc, List.append_assoc]
      exact .padded hbefore hvalue (hafter.append hpad)

end CommentBot.Json

namespace CommentBot.Comment

open Json

variable {octets pad : List UInt8}

/-- The same event is read from a padded payload. -/
theorem ofPayload_append_blank (hpad : Blank pad) {e : Event} :
    Event.ofPayload (octets ++ pad) = .ok e ↔ Event.ofPayload octets = .ok e := by
  simp only [ofPayload_eq_ok_iff]
  constructor
  · rintro ⟨howner, hname, hauthor, n, htext, hrendered⟩
    exact ⟨howner, hname, hauthor, n, (isTextOf_append_blank hpad).1 htext, hrendered⟩
  · rintro ⟨howner, hname, hauthor, n, htext, hrendered⟩
    exact ⟨howner, hname, hauthor, n, (isTextOf_append_blank hpad).2 htext, hrendered⟩

/-- A padded payload is refused if the payload itself is, though the complaint may name another place in it. -/
theorem ofPayload_append_blank_error (hpad : Blank pad) :
    (∃ e, Event.ofPayload (octets ++ pad) = .error e) ↔ ∃ e, Event.ofPayload octets = .error e := by
  have hok := @ofPayload_append_blank octets pad hpad
  cases hpadded : Event.ofPayload (octets ++ pad) with
  | ok event => simp [hok.1 hpadded]
  | error e =>
    cases hplain : Event.ofPayload octets with
    | ok event =>
      rw [hok.2 hplain] at hpadded
      cases hpadded
    | error e' => simp

end CommentBot.Comment

namespace CommentBot.Server

open Comment Forge Json

/-- The request with octets behind its body. -/
def Request.padded (r : Request) (pad : List UInt8) : Request := { r with body := r.body ++ pad }

variable {settings : Settings} {r : Request} {pad : List UInt8}

theorem length_le_padded (r : Request) (pad : List UInt8) : r.body.length ≤ (r.padded pad).body.length := by
  rw [Request.padded, List.length_append]
  exact Nat.le_add_right _ _

section Padded

variable (hpad : Blank pad)

include hpad

theorem reports_padded {event : Event} : Reports (r.padded pad) event ↔ Reports r event :=
  and_congr_right fun _ => ofPayload_append_blank hpad

theorem broken_padded : Broken (r.padded pad) ↔ Broken r :=
  or_congr_right (or_congr_right (and_congr_right fun _ => ofPayload_append_blank_error hpad))

theorem dropped_padded : Dropped settings (r.padded pad) ↔ Dropped settings r :=
  or_congr_right (exists_congr fun _ => and_congr_left fun _ => reports_padded hpad)

theorem heeded_padded {event : Event} : Heeded settings (r.padded pad) event ↔ Heeded settings r event :=
  and_congr_left fun _ => reports_padded hpad

end Padded

/-! ## Replies to padded deliveries -/

section Replies

variable {σ : Type} (hmethod : r.method = "POST") (hpath : r.path = "/webhook") (clients : Clients σ)
  (now : Time.Instant) (s : σ)

include hmethod hpath

theorem respond_of_too_long (h : bodyLimit < r.body.length) :
    respond settings clients now r s = (Refusal.bodyTooLong.reply, s) := by
  rw [respond_eq_takeDelivery hmethod hpath, takeDelivery, assess_of_too_long settings h]

theorem callsOf_of_too_long (h : bodyLimit < r.body.length) : callsOf settings clients now r s = [] := by
  rw [callsOf, respond_of_too_long hmethod hpath _ now _ h]

/-- The reply has one of the statuses of deliveries exactly if the body is not too long. -/
theorem status_mem_iff (settings : Settings) :
    (respond settings clients now r s).1.status ∈ [200, 400, 500] ↔ r.body.length ≤ bodyLimit := by
  constructor
  · intro hstatus
    by_contra hlong
    rw [respond_of_too_long hmethod hpath clients now s (Nat.lt_of_not_le hlong)] at hstatus
    exact absurd hstatus (by decide : Refusal.bodyTooLong.reply.status ∉ [200, 400, 500])
  · intro h
    rcases reply_cases hmethod hpath h settings clients now s with ⟨-, h⟩ | ⟨-, h⟩ | ⟨-, h⟩ | ⟨-, h⟩
    · simp [h]
    · simp [h, ignoredReply]
    · simp [h]
    · simp [h, processedReply]

/-- A padded delivery that is not too long gets a reply of the same status and leaves the same state. -/
theorem respond_padded (hpad : Blank pad) (h : (r.padded pad).body.length ≤ bodyLimit) :
    (respond settings clients now (r.padded pad) s).1.status = (respond settings clients now r s).1.status ∧
      (respond settings clients now (r.padded pad) s).2 = (respond settings clients now r s).2 := by
  have hplain : r.body.length ≤ bodyLimit := (length_le_padded r pad).trans h
  have hmethod' : (r.padded pad).method = "POST" := hmethod
  have hpath' : (r.padded pad).path = "/webhook" := hpath
  rcases broken_or_dropped_or_heeded settings r with hbroken | hdropped | ⟨event, hheeded⟩
  · obtain ⟨reply, hstatus, hreply⟩ := respond_of_broken hmethod hpath hplain settings hbroken
    obtain ⟨reply', hstatus', hreply'⟩ :=
      respond_of_broken hmethod' hpath' h settings ((broken_padded hpad).2 hbroken)
    rw [hreply, hreply']
    exact ⟨hstatus'.trans hstatus.symm, rfl⟩
  · rw [respond_of_dropped hmethod hpath hplain hdropped,
      respond_of_dropped hmethod' hpath' h ((dropped_padded hpad).2 hdropped)]
    exact ⟨rfl, rfl⟩
  · rw [respond_of_heeded hmethod hpath hplain hheeded,
      respond_of_heeded hmethod' hpath' h ((heeded_padded hpad).2 hheeded)]
    exact ⟨rfl, rfl⟩

theorem callsOf_padded (hpad : Blank pad) (h : (r.padded pad).body.length ≤ bodyLimit) :
    callsOf settings clients now (r.padded pad) s = callsOf settings clients now r s :=
  congrArg Prod.snd (respond_padded hmethod hpath clients.traced now (s, []) hpad h).2

end Replies

/-- **Padding is neutral as long as the body is not too long.** With blanks behind its body, a delivery gets a reply of
the same status, leaves the same state and makes the server call the same, exactly if the padded body is within the
limit or the body itself was beyond it. A body beyond the limit is refused unread with a status of its own, whatever
the delivery is of, and nothing is called. -/
theorem padding_neutral_iff {σ : Type} (settings : Settings) (clients : Clients σ) (now : Time.Instant) (r : Request)
    (s : σ) (hmethod : r.method = "POST") (hpath : r.path = "/webhook") (pad : List UInt8) (hpad : Blank pad) :
    let padded := r.padded pad
    let before := respond settings clients now r s
    let after := respond settings clients now padded s
    ((after.1.status = before.1.status ∧ after.2 = before.2 ∧
        callsOf settings clients now padded s = callsOf settings clients now r s) ↔
      padded.body.length ≤ bodyLimit ∨ bodyLimit < r.body.length) ∧
    (after.1.status ∈ [200, 400, 500] ↔ padded.body.length ≤ bodyLimit) ∧
    (bodyLimit < padded.body.length →
      after = (Refusal.bodyTooLong.reply, s) ∧ callsOf settings clients now padded s = []) ∧
    ∀ type, OfType r type → type ≠ "issue_comment" →
      (after.1 = ignoredReply ↔ padded.body.length ≤ bodyLimit) := by
  intro padded before after
  have hmethod' : padded.method = "POST" := hmethod
  have hpath' : padded.path = "/webhook" := hpath
  have hstatuses := status_mem_iff hmethod' hpath' clients now s settings
  refine ⟨⟨fun ⟨hstatus, _⟩ => ?_, ?_⟩, hstatuses, fun h => ?_,
    fun type htype hother => ⟨fun hreply => ?_, fun h => ?_⟩⟩
  · -- the statuses agree, so both bodies are within the limit, or neither is
    rw [← hstatuses, hstatus, status_mem_iff hmethod hpath]
    exact Nat.lt_or_ge bodyLimit r.body.length |>.symm
  · rintro (h | h)
    · obtain ⟨hstatus, hstate⟩ := respond_padded hmethod hpath clients now s hpad h
      exact ⟨hstatus, hstate, callsOf_padded hmethod hpath clients now s hpad h⟩
    · have h' : bodyLimit < padded.body.length := Nat.lt_of_lt_of_le h (length_le_padded r pad)
      rw [callsOf_of_too_long hmethod hpath clients now s h, callsOf_of_too_long hmethod' hpath' clients now s h']
      simp only [before, after, respond_of_too_long hmethod hpath clients now s h,
        respond_of_too_long hmethod' hpath' clients now s h', and_self]
  · exact ⟨respond_of_too_long hmethod' hpath' clients now s h, callsOf_of_too_long hmethod' hpath' clients now s h⟩
  · refine hstatuses.1 ?_
    rw [hreply]
    decide
  · exact (reply_eq_ignored_iff hmethod' hpath' h settings clients now s).2 (.inl ⟨type, htype, hother⟩)

theorem padded_greeting_processed : greeting.method = "POST" ∧ greeting.path = "/webhook" ∧ Blank [32, 13, 10] ∧
    (respond {} memoryClients .epoch (greeting.padded [32, 13, 10]) (.withBranch "main")).1.status =
      (respond {} memoryClients .epoch greeting (.withBranch "main")).1.status := by
  have hpath : greeting.path = "/webhook" := by decide
  have hblank : Blank [32, 13, 10] := by simp [Blank, isSpace]
  have hlength : (greeting.padded [32, 13, 10]).body.length ≤ bodyLimit := by decide +kernel
  exact ⟨rfl, hpath, hblank,
    ((padding_neutral_iff {} memoryClients .epoch greeting (.withBranch "main") rfl hpath _ hblank).1.2
      (.inl hlength)).1⟩

/-- A delivery of a push, which the bot does not heed. -/
def push : Request where
  method := "POST"
  target := "/webhook"
  headers := [("X-GitHub-Event", "push"), ("X-GitHub-Delivery", "d")]
  body := []

/-- One blank more than a body may have octets. -/
def excess : List UInt8 := List.replicate (bodyLimit + 1) 32

/-- A push is dropped, and refused with blanks behind it. -/
theorem padded_push_refused : ¬ ∀ (settings : Settings) (clients : Clients Repository) now r s pad,
    r.method = "POST" → r.path = "/webhook" → Blank pad → (r.padded pad).body.length ≤ 25000000 →
      (respond settings clients now (r.padded pad) s).1.status = (respond settings clients now r s).1.status := by
  intro h
  have hblank : Blank excess := fun c hc => by
    rw [List.eq_of_mem_replicate hc]
    rfl
  have hlength : (push.padded excess).body.length = bodyLimit + 1 := by
    rw [Request.padded, push, List.nil_append, excess, List.length_replicate]
  have hpath : push.path = "/webhook" := by decide
  have hstatus := h {} memoryClients .epoch push .empty excess rfl hpath hblank (by rw [hlength]; decide)
  have hplain := (status_mem_iff rfl hpath memoryClients .epoch .empty {}).2 (Nat.zero_le bodyLimit)
  rw [← hstatus, status_mem_iff (r := push.padded excess) rfl hpath, hlength] at hplain
  exact absurd hplain (Nat.not_succ_le_self bodyLimit)

end CommentBot.Server
