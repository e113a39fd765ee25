import CommentBot.Comment.Payload
import CommentBot.Proofs.Json.Records
import Mathlib

/-!
# Payloads and the events that they report

A payload is a text of an object whose members say what happened to a comment. `Rendering` says which octets are
payloads of an event: which members there are, what each is, and what may be left out. All else in a payload is
free: the order of members, blanks, escapes, and members with other names, whatever they are.

1. `comment_iff`, `issue_iff`, `repository_iff`, `installation_iff`: what each record of a payload is read from.
2. `ofPayload_eq_ok_iff`: an event is read from its renderings, and from nothing else.
3. `payloads_are_renderings`: so it is with deliveries, and all else is refused.
-/

namespace CommentBot.Comment

open Json Forge Fields

/-! ## Renderings -/

/-- A record of a login. Here and below, `arrays` says whether records may be written as arrays. -/
def LoginRendered (arrays : Prop) (login : String) (n : Node) : Prop :=
  Shaped arrays [⟨"login", Node.IsString login, False⟩] n

/-- The comment. An empty text may be null or missing. -/
def CommentRendered (arrays : Prop) (e : Event) (n : Node) : Prop :=
  Shaped arrays
    [⟨"id", Node.IsNatural e.id.value.toNat, False⟩,
      ⟨"body", fun n => n.IsNull ∧ e.body = "" ∨ n.IsString e.body, e.body = ""⟩,
      ⟨"user", LoginRendered arrays e.author, False⟩] n

/-- What an issue says of the pull request that it is: any value but null that can be kept, at most 127 brackets
deep in the text. An issue that is none says nothing, or null. -/
def PullRequestRendered (e : Event) (n : Node) : Prop :=
  n.IsNull ∧ e.isPullRequest = false ∨ ¬ n.IsNull ∧ e.isPullRequest = true ∧ n.Readable 125

/-- The issue. -/
def IssueRendered (arrays : Prop) (e : Event) (n : Node) : Prop :=
  Shaped arrays
    [⟨"number", Node.IsNatural e.issue.value.toNat, False⟩,
      ⟨"pull_request", PullRequestRendered e, e.isPullRequest = false⟩] n

/-- The repository. -/
def RepositoryRendered (arrays : Prop) (e : Event) (n : Node) : Prop :=
  Shaped arrays
    [⟨"owner", LoginRendered arrays e.repo.owner, False⟩, ⟨"name", Node.IsString e.repo.repo, False⟩] n

/-- A record of the number of an installation. -/
def InstallationRendered (arrays : Prop) (id : InstallationId) (n : Node) : Prop :=
  Shaped arrays [⟨"id", Node.IsNatural id.value.toNat, False⟩] n

/-- The name of what happened. -/
def ActionRendered (action : Action) (n : Node) : Prop := ∃ name, n.IsString name ∧ Action.ofName name = action

/-- The payload. -/
def PayloadRendered (arrays : Prop) (e : Event) (n : Node) : Prop :=
  Shaped arrays
    [⟨"action", ActionRendered e.action, False⟩,
      ⟨"comment", CommentRendered arrays e, False⟩,
      ⟨"issue", IssueRendered arrays e, False⟩,
      ⟨"repository", RepositoryRendered arrays e, False⟩,
      ⟨"installation", fun n => n.IsNull ∧ e.installation = none ∨
        ∃ id, e.installation = some id ∧ InstallationRendered arrays id n, e.installation = none⟩] n

/-- The octets are a payload that reports the event. Its names must not be empty. -/
structure Rendering (arrays : Prop) (e : Event) (octets : List UInt8) : Prop where
  owner : e.repo.owner ≠ ""
  name : e.repo.repo ≠ ""
  author : e.author ≠ ""
  written : ∃ n, n.IsTextOf octets ∧ PayloadRendered arrays e n

/-! ## Records -/

section Records

variable {depth : Nat} {e : Event} {n : Node}

theorem login_iff {wanted login : String} (hn : n.Whole) :
    Payload.login wanted ⟨depth + 1, .text⟩ n = .ok login ↔ LoginRendered True login n := by
  have hmeans := (Means.field "login" .string none ⟨depth, .text⟩).map id
  have hlogin : Part.Covers ⟨"login", Node.IsString login, False⟩
      (readings "login" .string none ⟨depth, .text⟩ (· = login)) :=
    covers_required fun n _ => by simp [string_eq_ok_iff]
  exact record_iff_shaped hmeans (fun ps => by simp [Choice, readings, List.forall₂_cons_left_iff])
    (.cons hlogin .nil) hn

theorem comment_iff (hn : n.Whole) :
    (∃ c : UInt64 × Option String × String, (c.1 = e.id.value ∧ c.2.1.getD "" = e.body ∧ c.2.2 = e.author) ∧
      Payload.comment ⟨depth + 2, .text⟩ n = .ok c) ↔ CommentRendered True e n := by
  have hmeans := (((Means.field "id" .uint64 none ⟨depth + 1, .text⟩).map
      fun id (body : Option String) (author : String) => (id, body, author)).seq
    (Means.field "body" (.option .string) (some none) ⟨depth + 1, .text⟩) (by decide)).seq
    (Means.field "user" (Payload.login "struct RawUser") none ⟨depth + 1, .text⟩) (by decide)
  have hid : Part.Covers ⟨"id", Node.IsNatural e.id.value.toNat, False⟩
      (readings "id" .uint64 none ⟨depth + 1, .text⟩ (· = e.id.value)) :=
    covers_required fun n _ => by simp [uint64_eq_ok_iff]
  have hbody : Part.Covers ⟨"body", fun n => n.IsNull ∧ e.body = "" ∨ n.IsString e.body, e.body = ""⟩
      (readings "body" (.option .string) (some none) ⟨depth + 1, .text⟩ (·.getD "" = e.body)) := by
    refine covers_optional (fun n _ => ?_) eq_comm
    have hstring : n.IsString e.body → ¬ n.IsNull := by
      rintro ⟨s, rfl, -⟩
      nofun
    simp only [string_eq_ok_iff, Option.getD_some, Option.getD_none, exists_eq_left, @eq_comm _ "" e.body,
      and_iff_right_of_imp hstring]
  have huser : Part.Covers ⟨"user", LoginRendered True e.author, False⟩
      (readings "user" (Payload.login "struct RawUser") none ⟨depth + 1, .text⟩ (· = e.author)) :=
    covers_required fun n hn => by simp [login_iff hn]
  exact exists_record_iff hmeans (fun ps => by simp [Choice, readings, List.forall₂_cons_left_iff])
    (.cons hid (.cons hbody (.cons huser .nil))) hn

theorem issue_iff (hn : n.Whole) :
    (∃ i : UInt64 × Option Value, (i.1 = e.issue.value ∧ i.2.isSome = e.isPullRequest) ∧
      Payload.issueRecord ⟨126, .text⟩ n = .ok i) ↔ IssueRendered True e n := by
  have hmeans := ((Means.field "number" .uint64 none ⟨125, .text⟩).map
      (Prod.mk (α := UInt64) (β := Option Value))).seq
    (Means.field "pull_request" (.option .value) (some none) ⟨125, .text⟩) (by decide)
  have hnumber : Part.Covers ⟨"number", Node.IsNatural e.issue.value.toNat, False⟩
      (readings "number" .uint64 none ⟨125, .text⟩ (· = e.issue.value)) :=
    covers_required fun n _ => by simp [uint64_eq_ok_iff]
  have hpull : Part.Covers ⟨"pull_request", PullRequestRendered e, e.isPullRequest = false⟩
      (readings "pull_request" (.option .value) (some none) ⟨125, .text⟩ (·.isSome = e.isPullRequest)) := by
    refine covers_optional (fun n _ => ?_) eq_comm
    have hvalue : (∃ v, Decoder.value ⟨125, .text⟩ n = .ok v) ↔ n.Readable 125 := exists_value_iff
    simp only [PullRequestRendered, Option.isSome_some, Option.isSome_none, exists_and_left, hvalue,
      @eq_comm _ _ e.isPullRequest]
  exact exists_record_iff hmeans (fun ps => by simp [Choice, readings, List.forall₂_cons_left_iff])
    (.cons hnumber (.cons hpull .nil)) hn

theorem repository_iff (hn : n.Whole) :
    (∃ r : String × String, (r.1 = e.repo.owner ∧ r.2 = e.repo.repo) ∧
      Payload.repository ⟨depth + 2, .text⟩ n = .ok r) ↔ RepositoryRendered True e n := by
  have hmeans := ((Means.field "owner" (Payload.login "struct RawOwner") none ⟨depth + 1, .text⟩).map
      (Prod.mk (α := String) (β := String))).seq
    (Means.field "name" .string none ⟨depth + 1, .text⟩) (by decide)
  have howner : Part.Covers ⟨"owner", LoginRendered True e.repo.owner, False⟩
      (readings "owner" (Payload.login "struct RawOwner") none ⟨depth + 1, .text⟩ (· = e.repo.owner)) :=
    covers_required fun n hn => by simp [login_iff hn]
  have hname : Part.Covers ⟨"name", Node.IsString e.repo.repo, False⟩
      (readings "name" .string none ⟨depth + 1, .text⟩ (· = e.repo.repo)) :=
    covers_required fun n _ => by simp [string_eq_ok_iff]
  exact exists_record_iff hmeans (fun ps => by simp [Choice, readings, List.forall₂_cons_left_iff])
    (.cons howner (.cons hname .nil)) hn

theorem installation_iff {number : UInt64} (hn : n.Whole) :
    Payload.installationRecord ⟨depth + 1, .text⟩ n = .ok number ↔ InstallationRendered True ⟨number⟩ n := by
  have hmeans := (Means.field "id" .uint64 none ⟨depth, .text⟩).map id
  have hid : Part.Covers ⟨"id", Node.IsNatural number.toNat, False⟩
      (readings "id" .uint64 none ⟨depth, .text⟩ (· = number)) :=
    covers_required fun n _ => by simp [uint64_eq_ok_iff]
  exact record_iff_shaped hmeans (fun ps => by simp [Choice, readings, List.forall₂_cons_left_iff])
    (.cons hid .nil) hn

theorem event_eq_iff {action : String} {c : UInt64 × Option String × String} {i : UInt64 × Option Value}
    {r : String × String} {number : Option UInt64} :
    (Payload.ofParts action c i r number).event = e ↔
      Action.ofName action = e.action ∧ (c.1 = e.id.value ∧ c.2.1.getD "" = e.body ∧ c.2.2 = e.author) ∧
        (i.1 = e.issue.value ∧ i.2.isSome = e.isPullRequest) ∧ (r.1 = e.repo.owner ∧ r.2 = e.repo.repo) ∧
          number.map InstallationId.mk = e.installation := by
  obtain ⟨⟨owner, repo⟩, action', ⟨issue⟩, isPullRequest, ⟨id⟩, body, author, installation⟩ := e
  simp only [Payload.event, Payload.ofParts, Event.mk.injEq, RepoId.mk.injEq, IssueNumber.mk.injEq,
    CommentId.mk.injEq]
  constructor
  · rintro ⟨⟨howner, hrepo⟩, haction, hissue, hpull, hid, hbody, hauthor, hinstallation⟩
    exact ⟨haction, ⟨hid, hbody, hauthor⟩, ⟨hissue, hpull⟩, ⟨howner, hrepo⟩, hinstallation⟩
  · rintro ⟨haction, ⟨hid, hbody, hauthor⟩, ⟨hissue, hpull⟩, ⟨howner, hrepo⟩, hinstallation⟩
    exact ⟨⟨howner, hrepo⟩, haction, hissue, hpull, hid, hbody, hauthor, hinstallation⟩

/-- The parts from which a payload is read. -/
def payloadParts (p : Payload) (ps : List Part) : Prop :=
  ∃ action c i r number, Payload.ofParts action c i r number = p ∧ ps =
    [part "action" .string none ⟨126, .text⟩ action, part "comment" Payload.comment none ⟨126, .text⟩ c,
      part "issue" Payload.issueRecord none ⟨126, .text⟩ i,
      part "repository" Payload.repository none ⟨126, .text⟩ r,
      part "installation" (.option Payload.installationRecord) (some none) ⟨126, .text⟩ number]

theorem payload_means : Means (Payload.ofParts <$> .required "action" .string
      <*> .required "comment" Payload.comment <*> .required "issue" Payload.issueRecord
      <*> .required "repository" Payload.repository <*> .optional "installation" Payload.installationRecord)
    ⟨126, .text⟩ ["action", "comment", "issue", "repository", "installation"] payloadParts := by
  have haction := (Means.field "action" .string none ⟨126, .text⟩).map Payload.ofParts
  have hcomment := haction.seq (Means.field "comment" Payload.comment none ⟨126, .text⟩) (by decide)
  have hissue := hcomment.seq (Means.field "issue" Payload.issueRecord none ⟨126, .text⟩) (by decide)
  have hrepository := hissue.seq (Means.field "repository" Payload.repository none ⟨126, .text⟩) (by decide)
  have hall := hrepository.seq
    (Means.field "installation" (.option Payload.installationRecord) (some none) ⟨126, .text⟩) (by decide)
  refine hall.congr fun p ps => ?_
  constructor
  · rintro ⟨_, number, _, _, ⟨_, r, _, _, ⟨_, i, _, _, ⟨_, c, _, _, ⟨action, rfl, rfl⟩, rfl, rfl, rfl⟩,
      rfl, rfl, rfl⟩, rfl, rfl, rfl⟩, rfl, rfl, rfl⟩
    exact ⟨action, c, i, r, number, rfl, rfl⟩
  · rintro ⟨action, c, i, r, number, rfl, rfl⟩
    exact ⟨_, number, _, _, ⟨_, r, _, _, ⟨_, i, _, _, ⟨_, c, _, _, ⟨action, rfl, rfl⟩, rfl, rfl, rfl⟩,
      rfl, rfl, rfl⟩, rfl, rfl, rfl⟩, rfl, rfl, rfl⟩

theorem payload_iff (hn : n.Whole) :
    (∃ p, p.event = e ∧ Payload.decode .top n = .ok p) ↔ PayloadRendered True e n := by
  have haction : Part.Covers ⟨"action", ActionRendered e.action, False⟩
      (readings "action" .string none ⟨126, .text⟩ (Action.ofName · = e.action)) :=
    covers_required fun n _ => by simp [ActionRendered, string_eq_ok_iff, and_comm]
  have hcomment : Part.Covers ⟨"comment", CommentRendered True e, False⟩
      (readings "comment" Payload.comment none ⟨126, .text⟩ fun c =>
        c.1 = e.id.value ∧ c.2.1.getD "" = e.body ∧ c.2.2 = e.author) :=
    covers_required fun n hn => (comment_iff hn).symm
  have hissue : Part.Covers ⟨"issue", IssueRendered True e, False⟩
      (readings "issue" Payload.issueRecord none ⟨126, .text⟩ fun i =>
        i.1 = e.issue.value ∧ i.2.isSome = e.isPullRequest) :=
    covers_required fun n hn => (issue_iff hn).symm
  have hrepository : Part.Covers ⟨"repository", RepositoryRendered True e, False⟩
      (readings "repository" Payload.repository none ⟨126, .text⟩ fun r =>
        r.1 = e.repo.owner ∧ r.2 = e.repo.repo) :=
    covers_required fun n hn => (repository_iff hn).symm
  have hinstallation : Part.Covers ⟨"installation", fun n => n.IsNull ∧ e.installation = none ∨
        ∃ id, e.installation = some id ∧ InstallationRendered True id n, e.installation = none⟩
      (readings "installation" (.option Payload.installationRecord) (some none) ⟨126, .text⟩
        (·.map InstallationId.mk = e.installation)) := by
    refine covers_optional (fun n hn => ?_) eq_comm
    refine or_congr (and_congr_right fun _ => eq_comm) ?_
    constructor
    · rintro ⟨⟨number⟩, hsome, hrecord⟩
      exact ⟨hrecord.not_isNull, number, hsome.symm, (installation_iff hn).2 hrecord⟩
    · rintro ⟨-, number, hsome, hread⟩
      exact ⟨⟨number⟩, hsome.symm, (installation_iff hn).1 hread⟩
  -- an event leaves open which of several texts or values a member is, so a part covers the readings of all of them
  refine exists_record_iff payload_means (fun ps => ?_)
    (.cons haction (.cons hcomment (.cons hissue (.cons hrepository (.cons hinstallation .nil))))) hn
  constructor
  · rintro ⟨_, hevent, action, c, i, r, number, rfl, rfl⟩
    obtain ⟨haction, hc, hi, hr, hnumber⟩ := event_eq_iff.1 hevent
    exact .cons ⟨action, haction, rfl⟩ (.cons ⟨c, hc, rfl⟩ (.cons ⟨i, hi, rfl⟩
      (.cons ⟨r, hr, rfl⟩ (.cons ⟨number, hnumber, rfl⟩ .nil))))
  · rintro (_ | ⟨⟨action, haction, rfl⟩, _ | ⟨⟨c, hc, rfl⟩, _ | ⟨⟨i, hi, rfl⟩, _ | ⟨⟨r, hr, rfl⟩,
      _ | ⟨⟨number, hnumber, rfl⟩, _ | _⟩⟩⟩⟩⟩)
    exact ⟨_, event_eq_iff.2 ⟨haction, hc, hi, hr, hnumber⟩, action, c, i, r, number, rfl, rfl⟩

end Records

/-! ## Payloads -/

theorem firstEmpty?_eq_none_iff {texts : List (String × String)} :
    firstEmpty? texts = none ↔ ∀ entry ∈ texts, entry.2 ≠ "" := by
  simp [firstEmpty?]

/-- An event is what a payload reports whose names are not empty. -/
theorem ofPayload_eq_ok_iff_readAll {e : Event} {octets : List UInt8} : Event.ofPayload octets = .ok e ↔
    ∃ p, Payload.decode.readAll octets = .ok p ∧
      p.event = e ∧ e.repo.owner ≠ "" ∧ e.repo.repo ≠ "" ∧ e.author ≠ "" := by
  unfold Event.ofPayload
  simp only [bind_eq_ok, mapError_eq_ok]
  refine exists_congr fun p => and_congr_right fun _ => ?_
  have hnames : firstEmpty? [("repository.owner.login", p.owner), ("repository.name", p.repo),
      ("comment.user.login", p.author)] = none ↔
        p.event.repo.owner ≠ "" ∧ p.event.repo.repo ≠ "" ∧ p.event.author ≠ "" := by
    rw [firstEmpty?_eq_none_iff]
    simp [Payload.event]
  split
  · rename_i name hempty
    rw [hempty] at hnames
    refine ⟨nofun, ?_⟩
    rintro ⟨rfl, h⟩
    cases hnames.2 h
  · rename_i hnone
    constructor
    · intro h
      obtain rfl := Except.ok.inj h
      exact ⟨rfl, hnames.1 hnone⟩
    · rintro ⟨rfl, -⟩
      rfl

/-- An event is read from its renderings, and from nothing else. -/
theorem ofPayload_eq_ok_iff {e : Event} {octets : List UInt8} :
    Event.ofPayload octets = .ok e ↔ Rendering True e octets := by
  rw [ofPayload_eq_ok_iff_readAll]
  constructor
  · rintro ⟨p, hread, hevent, howner, hname, hauthor⟩
    obtain ⟨n, htext, hread⟩ := (readAll_record_iff payload_means).1 hread
    exact ⟨howner, hname, hauthor, n, htext, (payload_iff (Phrase.Written.whole htext)).1 ⟨p, hevent, hread⟩⟩
  · rintro ⟨howner, hname, hauthor, n, htext, hrendered⟩
    obtain ⟨p, hevent, hread⟩ := (payload_iff (Phrase.Written.whole htext)).2 hrendered
    exact ⟨p, (readAll_record_iff payload_means).2 ⟨n, htext, hread⟩, hevent, howner, hname, hauthor⟩

/-! Records that are written as objects are among those that may be written as arrays. -/

section Mono

variable {e : Event} {n : Node}

theorem LoginRendered.mono {login : String} (h : LoginRendered False login n) : LoginRendered True login n :=
  Shaped.mono h False.elim (.cons (.refl _) .nil)

theorem CommentRendered.mono (h : CommentRendered False e n) : CommentRendered True e n :=
  Shaped.mono h False.elim (.cons (.refl _) (.cons (.refl _) (.cons ⟨rfl, fun _ => LoginRendered.mono, id⟩ .nil)))

theorem IssueRendered.mono (h : IssueRendered False e n) : IssueRendered True e n :=
  Shaped.mono h False.elim (.cons (.refl _) (.cons (.refl _) .nil))

theorem RepositoryRendered.mono (h : RepositoryRendered False e n) : RepositoryRendered True e n :=
  Shaped.mono h False.elim (.cons ⟨rfl, fun _ => LoginRendered.mono, id⟩ (.cons (.refl _) .nil))

theorem InstallationRendered.mono {id : InstallationId} (h : InstallationRendered False id n) :
    InstallationRendered True id n :=
  Shaped.mono h False.elim (.cons (.refl _) .nil)

theorem PayloadRendered.mono (h : PayloadRendered False e n) : PayloadRendered True e n := by
  have hinstallation : ∀ n : Node,
      (n.IsNull ∧ e.installation = none ∨ ∃ id, e.installation = some id ∧ InstallationRendered False id n) →
        n.IsNull ∧ e.installation = none ∨ ∃ id, e.installation = some id ∧ InstallationRendered True id n := by
    rintro n (h | ⟨id, hid, h⟩)
    · exact .inl h
    · exact .inr ⟨id, hid, h.mono⟩
  exact Shaped.mono h False.elim (.cons (.refl _) (.cons ⟨rfl, fun _ => CommentRendered.mono, id⟩
    (.cons ⟨rfl, fun _ => IssueRendered.mono, id⟩ (.cons ⟨rfl, fun _ => RepositoryRendered.mono, id⟩
      (.cons ⟨rfl, hinstallation, id⟩ .nil)))))

end Mono

/-- **Deliveries of comments are renderings of events.** A delivery is accepted with the event that its payload
renders, where records may be written as arrays; in particular, so it is if they are written as objects. Any
other payload is refused. -/
theorem payloads_are_renderings (octets : List UInt8) :
    (∀ e, Event.ofDelivery "issue_comment" octets = .ok (some e) ↔ Rendering True e octets) ∧
      (∀ e, Rendering False e octets → Event.ofDelivery "issue_comment" octets = .ok (some e)) ∧
        ((∃ e, Rendering True e octets) ∨ ∃ error, Event.ofDelivery "issue_comment" octets = .error error) := by
  have haccepted : ∀ e, Event.ofDelivery "issue_comment" octets = .ok (some e) ↔ Rendering True e octets := by
    intro e
    rw [← ofPayload_eq_ok_iff, Event.ofDelivery, if_pos rfl, map_eq_ok]
    simp
  refine ⟨haccepted, fun e h => (haccepted e).2 ?_, ?_⟩
  · obtain ⟨n, htext, hrendered⟩ := h.written
    exact ⟨h.owner, h.name, h.author, n, htext, hrendered.mono⟩
  · cases hpayload : Event.ofPayload octets with
    | ok e => exact .inl ⟨e, ofPayload_eq_ok_iff.1 hpayload⟩
    | error error => exact .inr ⟨error, by rw [Event.ofDelivery, if_pos rfl, hpayload]; rfl⟩

/-! ## A plain payload -/

/-- A string without escapes. -/
def plain (text : String) : Spelling := ⟨(Text.utf8 text).map .octet, none⟩

theorem spells_plain (text : String) : (plain text).Spells text := by
  refine ⟨rfl, ?_⟩
  show Joins ((Text.utf8 text).map .octet) (Text.utf8 text)
  induction Text.utf8 text with
  | nil => exact .nil
  | cons v octets ih => exact .octet ih

/-- The value that a string without escapes is. -/
def plainString (text : String) : Node := .scalar (.string (plain text))

/-- An object whose keys are without escapes. -/
def plainObject (entries : List (String × Node)) : Node :=
  .object (entries.map fun e => (.scalar (.string (plain e.1)), e.2)) none

theorem shaped_plainObject {arrays : Prop} {parts : List Part} {entries : List (String × Node)}
    (h : ∀ p ∈ parts, p.Stands entries) : Shaped arrays parts (plainObject entries) := by
  refine .inl ⟨_, entries, rfl, ?_, h⟩
  show Keyed (entries.map _) entries
  clear h
  induction entries with
  | nil => exact .nil
  | cons e entries ih => exact .cons ⟨⟨plain e.1, rfl, spells_plain e.1⟩, rfl⟩ ih

/-- A comment that greets the bot. -/
def greeting : Event where
  repo := ⟨"ann", "tools"⟩
  action := .created
  issue := ⟨7⟩
  isPullRequest := false
  id := ⟨1⟩
  body := "Hello"
  author := "ann"
  installation := none

/-- The values of a payload that reports the greeting. -/
def greetingNode : Node := plainObject
  [("action", plainString "created"),
    ("comment", plainObject [("id", .scalar (.number ⟨false, [1], [], none⟩)), ("body", plainString "Hello"),
      ("user", plainObject [("login", plainString "ann")])]),
    ("issue", plainObject [("number", .scalar (.number ⟨false, [7], [], none⟩))]),
    ("repository", plainObject [("name", plainString "tools"),
      ("owner", plainObject [("login", plainString "ann")])])]

/-- Its text. -/
def greetingPayload : List UInt8 := Text.utf8 (Json.Value.object [
  ("action", .string "created"),
  ("comment", .object [("id", .nat 1), ("body", .string "Hello"), ("user", .object [("login", .string "ann")])]),
  ("issue", .object [("number", .nat 7)]),
  ("repository", .object [("name", .string "tools"), ("owner", .object [("login", .string "ann")])])]).text

theorem greeting_accepted : Rendering False greeting greetingPayload ∧
    Event.ofDelivery "issue_comment" greetingPayload = .ok (some greeting) := by
  have hstring : ∀ text, (plainString text).IsString text := fun text => ⟨_, rfl, spells_plain text⟩
  have hlogin : LoginRendered False "ann" (plainObject [("login", plainString "ann")]) :=
    shaped_plainObject (by simp [Part.Stands, Sole, hstring])
  have hcomment : CommentRendered False greeting (plainObject [("id", .scalar (.number ⟨false, [1], [], none⟩)),
      ("body", plainString "Hello"), ("user", plainObject [("login", plainString "ann")])]) := by
    have hid : Node.IsNatural 1 (.scalar (.number ⟨false, [1], [], none⟩)) := ⟨[1], rfl, rfl⟩
    exact shaped_plainObject (by simp [Part.Stands, Sole, greeting, hid, hlogin, hstring])
  have hissue : IssueRendered False greeting
      (plainObject [("number", .scalar (.number ⟨false, [7], [], none⟩))]) := by
    have hnumber : Node.IsNatural 7 (.scalar (.number ⟨false, [7], [], none⟩)) := ⟨[7], rfl, rfl⟩
    exact shaped_plainObject (by simp [Part.Stands, Sole, Lacks, greeting, hnumber])
  have hrepository : RepositoryRendered False greeting
      (plainObject [("name", plainString "tools"), ("owner", plainObject [("login", plainString "ann")])]) :=
    shaped_plainObject (by simp [Part.Stands, Sole, greeting, hlogin, hstring])
  have haction : ActionRendered greeting.action (plainString "created") := ⟨_, hstring "created", rfl⟩
  have hinstallation : greeting.installation = none := rfl
  have hpayload : PayloadRendered False greeting greetingNode :=
    shaped_plainObject (by
      simp [Part.Stands, Sole, Lacks, haction, hcomment, hissue, hrepository, hinstallation])
  have hparse : Document.parse greetingPayload = ⟨greetingNode, false⟩ := by cbv
  have htext : greetingNode.IsTextOf greetingPayload := by
    have hsound : (Document.parse greetingPayload).Sound := by
      rw [hparse]
      exact ⟨rfl, rfl⟩
    simpa only [hparse] using isTextOf_of_parse hsound
  have h : Rendering False greeting greetingPayload :=
    ⟨by decide, by decide, by decide, greetingNode, htext, hpayload⟩
  exact ⟨h, (payloads_are_renderings greetingPayload).2.1 greeting h⟩

end CommentBot.Comment
