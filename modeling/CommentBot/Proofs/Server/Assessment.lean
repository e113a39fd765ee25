import CommentBot.Server.Delivery

/-!
# What a delivery is

A delivery is broken, dropped or heeded, by its headers and its payload alone; none is two of these
(`assess_of_broken`, `assess_of_dropped`, `assess_of_heeded`), and every one is one of them
(`broken_or_dropped_or_heeded`).
-/

namespace CommentBot.Server

open Comment

/-! ## Headers -/

namespace Request

/-- The first header with a name has this value, which is of tabs, blanks and visible ASCII characters only. -/
def Carries (r : Request) (name value : String) : Prop :=
  (∃ before entry after, r.headers = before ++ entry :: after ∧ (∀ e ∈ before, e.1.toLower ≠ name) ∧
    entry.1.toLower = name ∧ entry.2 = value) ∧
  ∀ c ∈ value.toList, c = '\t' ∨ 32 ≤ c.toNat ∧ c.toNat ≤ 126

variable {r : Request} {name value : String}

theorem isReadable_iff : isReadable value = true ↔
    ∀ c ∈ value.toList, c = '\t' ∨ 32 ≤ c.toNat ∧ c.toNat ≤ 126 := by
  simp [isReadable]

theorem header?_eq_some_iff : r.header? name = some value ↔ r.Carries name value := by
  unfold header? Carries
  rw [Option.filter_eq_some_iff, isReadable_iff, Option.map_eq_some_iff]
  refine and_congr_left fun _ => ?_
  constructor
  · rintro ⟨entry, hfind, hvalue⟩
    obtain ⟨hname, before, after, hheaders, hbefore⟩ := List.find?_eq_some_iff_append.1 hfind
    exact ⟨before, entry, after, hheaders, by simpa using hbefore, by simpa using hname, hvalue⟩
  · rintro ⟨before, entry, after, hheaders, hbefore, hname, hvalue⟩
    refine ⟨entry, List.find?_eq_some_iff_append.2 ⟨by simpa using hname, before, after, hheaders, ?_⟩, hvalue⟩
    simpa using hbefore

theorem header?_eq_none_iff : r.header? name = none ↔ ∀ value, ¬ r.Carries name value := by
  simp only [Option.eq_none_iff_forall_ne_some, ne_eq, header?_eq_some_iff]

end Request

/-! ## Deliveries -/

variable (settings : Settings) (r : Request)

/-- Both headers are readable, and the delivery is of this type. -/
def OfType (type : String) : Prop := r.Carries eventHeader type ∧ ∃ id, r.Carries deliveryHeader id

/-- A header is missing or unreadable, or the payload is not that of a comment though the type says so. -/
def Broken : Prop :=
  (∀ type, ¬ r.Carries eventHeader type) ∨ (∀ id, ¬ r.Carries deliveryHeader id) ∨
    (r.Carries eventHeader "issue_comment" ∧ ∃ e, Event.ofPayload r.body = .error e)

/-- The delivery reports an event on a comment. -/
def Reports (event : Event) : Prop := OfType r "issue_comment" ∧ Event.ofPayload r.body = .ok event

/-- The delivery is of another type, or the bot does not heed the event that it reports. -/
def Dropped : Prop :=
  (∃ type, OfType r type ∧ type ≠ "issue_comment") ∨
    ∃ event, Reports r event ∧ ∃ reason, event.ignoreReason? settings = some reason

/-- The delivery reports an event that the bot heeds. -/
def Heeded (event : Event) : Prop := Reports r event ∧ event.ignoreReason? settings = none

theorem broken_or_dropped_or_heeded : Broken r ∨ Dropped settings r ∨ ∃ event, Heeded settings r event := by
  by_cases htype : ∃ type, r.Carries eventHeader type
  case neg => exact .inl (.inl (not_exists.1 htype))
  by_cases hid : ∃ id, r.Carries deliveryHeader id
  case neg => exact .inl (.inr (.inl (not_exists.1 hid)))
  obtain ⟨type, htype⟩ := htype
  by_cases hcomment : type = "issue_comment"
  case neg => exact .inr (.inl (.inl ⟨type, ⟨htype, hid⟩, hcomment⟩))
  subst hcomment
  cases hpayload : Event.ofPayload r.body with
  | error e => exact .inl (.inr (.inr ⟨htype, e, hpayload⟩))
  | ok event =>
    cases hreason : event.ignoreReason? settings with
    | some reason => exact .inr (.inl (.inr ⟨event, ⟨⟨htype, hid⟩, hpayload⟩, reason, hreason⟩))
    | none => exact .inr (.inr ⟨event, ⟨⟨htype, hid⟩, hpayload⟩, hreason⟩)

variable {settings r}

section Assessment

variable (hbody : r.body.length ≤ bodyLimit)

include hbody

theorem readEvent_of_type {type : String} (h : OfType r type) :
    readEvent r = (Event.ofDelivery type r.body).mapError .malformedPayload := by
  obtain ⟨htype, id, hid⟩ := h
  rw [← Request.header?_eq_some_iff] at htype hid
  unfold readEvent needHeader
  rw [if_neg (Nat.not_lt.2 hbody), htype, hid]
  rfl

theorem readEvent_of_reports {event : Event} (h : Reports r event) : readEvent r = .ok (some event) := by
  obtain ⟨htype, hpayload⟩ := h
  rw [readEvent_of_type hbody htype, Event.ofDelivery, if_pos rfl, hpayload]
  rfl

theorem readEvent_of_missing (h : r.header? eventHeader = none ∨ r.header? deliveryHeader = none) :
    ∃ name, readEvent r = .error (.missingHeader name) := by
  unfold readEvent needHeader
  rw [if_neg (Nat.not_lt.2 hbody)]
  cases htype : r.header? eventHeader with
  | none => exact ⟨eventHeader, rfl⟩
  | some type =>
    rw [htype] at h
    rcases h with h | h
    · cases h
    · rw [h]
      exact ⟨deliveryHeader, rfl⟩

theorem assess_of_broken (settings : Settings) (h : Broken r) : ∃ refusal, assess settings r = .refused refusal ∧
    refusal.reply.status = 400 := by
  unfold assess
  by_cases hmissing : r.header? eventHeader = none ∨ r.header? deliveryHeader = none
  · obtain ⟨name, hname⟩ := readEvent_of_missing hbody hmissing
    exact ⟨.missingHeader name, by rw [hname], rfl⟩
  · simp only [Request.header?_eq_none_iff] at hmissing
    obtain ⟨-, hid⟩ := not_or.1 hmissing
    rcases h with h | h | ⟨htype, e, he⟩
    · exact absurd (.inl h) hmissing
    · exact absurd h hid
    · refine ⟨.malformedPayload e, ?_, rfl⟩
      rw [readEvent_of_type hbody ⟨htype, by simpa using hid⟩, Event.ofDelivery, if_pos rfl, he]
      rfl

theorem assess_of_dropped (h : Dropped settings r) : assess settings r = .ignored := by
  unfold assess
  rcases h with ⟨type, htype, hother⟩ | ⟨event, hreports, reason, hreason⟩
  · rw [readEvent_of_type hbody htype, Event.ofDelivery, if_neg hother]
    rfl
  · simp [readEvent_of_reports hbody hreports, hreason]

theorem assess_of_heeded {event : Event} (h : Heeded settings r event) :
    assess settings r = .accepted event := by
  obtain ⟨hreports, hreason⟩ := h
  unfold assess
  simp [readEvent_of_reports hbody hreports, hreason]

end Assessment

end CommentBot.Server
