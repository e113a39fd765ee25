import CommentBot.Proofs.Forge.Wording
import CommentBot.Proofs.Json.Records
import CommentBot.Rest.Client
import Mathlib

/-!
# What a client reports of failures

An answer that arrives can fail in three ways: its status is no success, its body cannot be read, or what is read
is of no use. Only the words of the report tell the second from the loss of an answer.

1. `errorBody_iff`: which bodies tell what went wrong.
2. `failures_reported`: an error answer is reported with its status if its body is such a body, and without a
   status otherwise.
3. `kinds_of_arrived`: which errors the kinds of lost and of unusable answers stand for.
-/

namespace CommentBot.Rest

open Json Forge Fields

/-! ## Error answers -/

/-- The octets are an object that says with a message what went wrong. It may point to a page that explains more,
and list errors, which are any values that can be kept. -/
def ErrorObject (message : String) (octets : List UInt8) : Prop :=
  ∃ n, n.IsTextOf octets ∧ Shaped True
    [⟨"documentation_url", fun n => n.IsNull ∨ ∃ text, n.IsString text, True⟩,
      ⟨"errors", fun n => n.IsNull ∨ ∃ ns, n = .array ns none ∧ ∀ n ∈ ns, n.Readable 125, True⟩,
      ⟨"message", Node.IsString message, False⟩] n

theorem errorBody_iff {message : String} {octets : List UInt8} :
    errorBody.readAll octets = .ok message ↔ ErrorObject message octets := by
  have hmeans := (((Means.field "documentation_url" (.option .string) (some none) ⟨126, .text⟩).map
      fun (_ : Option String) (_ : Option (List Value)) (message : String) => message).seq
    (Means.field "errors" (.option (.list .value)) (some none) ⟨126, .text⟩) (by decide)).seq
    (Means.field "message" .string none ⟨126, .text⟩) (by decide)
  have hurl : Part.Covers ⟨"documentation_url", fun n => n.IsNull ∨ ∃ text, n.IsString text, True⟩
      (readings "documentation_url" (.option .string) (some none) ⟨126, .text⟩ fun _ => True) :=
    covers_any fun n _ => exists_congr fun _ => string_eq_ok_iff.symm
  have herrors : Part.Covers
      ⟨"errors", fun n => n.IsNull ∨ ∃ ns, n = .array ns none ∧ ∀ n ∈ ns, n.Readable 125, True⟩
      (readings "errors" (.option (.list .value)) (some none) ⟨126, .text⟩ fun _ => True) := by
    refine covers_any fun n _ => Iff.symm (exists_list_iff.trans ?_)
    have hvalue : ∀ n : Node, (∃ v, Decoder.value ⟨125, .text⟩ n = .ok v) ↔ n.Readable 125 :=
      fun n => exists_value_iff
    simp only [hvalue]
  have hmessage : Part.Covers ⟨"message", Node.IsString message, False⟩
      (readings "message" .string none ⟨126, .text⟩ (· = message)) :=
    covers_required fun n _ => by simp [string_eq_ok_iff]
  refine (readAll_record_iff hmeans).trans (exists_congr fun n => and_congr_right fun htext => ?_)
  exact record_iff_shaped hmeans
    (fun ps => by simpa [Choice, readings, List.forall₂_cons_left_iff] using exists_comm)
    (.cons hurl (.cons herrors (.cons hmessage .nil))) (Phrase.Written.whole htext)

/-! ## Answers that arrive -/

/-- The statuses of answers to requests that were granted. -/
def Granted (status : UInt16) : Prop := 200 ≤ status ∧ status < 300

section Gateway

variable {σ : Type} {c : Client} {transport : Transport σ} {e : Effect} {s s' : σ} {request : Request}
  {status : UInt16} {body : List UInt8}

theorem gateway_of_arrived (hrequest : c.request? e = some request)
    (hreply : transport request s = (.arrived status body, s')) :
    (c.gateway transport e s).1 = readReply e (.arrived status body) := by
  unfold Client.gateway
  rw [hrequest]
  exact congrArg (fun r => readReply e r.1) hreply

theorem readReply_of_granted (h : Granted status) : readReply e (.arrived status body) = readSuccess e body :=
  if_pos (by simpa using show 200 ≤ status ∧ status < 300 from h)

theorem readReply_of_not_granted (h : ¬ Granted status) :
    readReply e (.arrived status body) = .error (readFailure status body) :=
  if_neg (by simpa [Granted] using h)

theorem not_granted (h : 400 ≤ status) : ¬ Granted status := by
  rintro ⟨-, hlt⟩
  rw [UInt16.le_iff_toNat_le] at h
  rw [UInt16.lt_iff_toNat_lt] at hlt
  have h400 : (400 : UInt16).toNat = 400 := rfl
  have h300 : (300 : UInt16).toNat = 300 := rfl
  omega

/-- A client of some repository. -/
def widgets : Client := ⟨⟨"octo", "widgets"⟩⟩

/-- Answers every request alike. -/
def always (status : UInt16) (body : String) : Transport Unit := fun _ s => (.arrived status (Text.utf8 body), s)

theorem widgets_asks : ∃ request, widgets.request? (.getRef "heads/main") = some request := by
  have h : (widgets.request? (.getRef "heads/main")).isSome = true := by decide +kernel
  exact Option.isSome_iff_exists.1 h

theorem gateway_always (status : UInt16) (body : String) :
    (widgets.gateway (always status body) (.getRef "heads/main") ()).1 =
      readReply (.getRef "heads/main") (.arrived status (Text.utf8 body)) := by
  obtain ⟨request, hrequest⟩ := widgets_asks
  exact gateway_of_arrived hrequest rfl

/-- **An error answer is reported.** With its status and its message, if its body says what went wrong; otherwise
without a status, whatever the status was. -/
theorem failures_reported (hrequest : c.request? e = some request)
    (hreply : transport request s = (.arrived status body, s')) (hstatus : 400 ≤ status) :
    ∃ error, (c.gateway transport e s).1 = .error error ∧ error.kind = categorize error.status error.message ∧
      ((∃ message, ErrorObject message body ∧ error.status = some status ∧ error.message = message) ∨
        ((∀ message, ¬ ErrorObject message body) ∧ error.status = none ∧
          ∃ reason, errorBody.readAll body = .error reason ∧ error.message = "Serde Error: " ++ reason.message)) := by
  rw [gateway_of_arrived hrequest hreply, readReply_of_not_granted (not_granted hstatus)]
  refine ⟨_, rfl, ?_⟩
  unfold readFailure
  cases hread : errorBody.readAll body with
  | ok message => exact ⟨rfl, .inl ⟨message, errorBody_iff.1 hread, rfl, rfl⟩⟩
  | error reason =>
    have hnone : ∀ message, ¬ ErrorObject message body := by
      intro message h
      cases hread.symm.trans (errorBody_iff.2 h)
    exact ⟨rfl, .inr ⟨hnone, rfl, reason, rfl, rfl⟩⟩

end Gateway

theorem not_found_reported : (400 : UInt16) ≤ 404 ∧ ∃ error,
    (widgets.gateway (always 404 r#"{"message":"Not Found"}"#) (.getRef "heads/main") ()).1 = .error error ∧
      error.status = some 404 ∧ error.message = "Not Found" ∧ error.kind = .notFound := by
  obtain ⟨request, hrequest⟩ := widgets_asks
  have hstatus : (400 : UInt16) ≤ 404 := by decide
  have hbody : (errorBody.readAll (Text.utf8 r#"{"message":"Not Found"}"#)).toOption = some "Not Found" := by
    decide +kernel
  obtain ⟨error, hreply, hkind, ⟨message, hobject, hkept, rfl⟩ | ⟨-, -, reason, hreason, -⟩⟩ :=
    failures_reported hrequest (rfl : always 404 r#"{"message":"Not Found"}"# request () = _) hstatus
  · rw [errorBody_iff.2 hobject] at hbody
    obtain hmessage : error.message = "Not Found" := Option.some.inj hbody
    rw [hkept, hmessage] at hkind
    exact ⟨hstatus, error, hreply, hkept, hmessage, hkind⟩
  · rw [hreason] at hbody
    cases hbody

/-- An error answer whose body is a page for people is reported without its status. -/
theorem status_lost : ¬ ∀ (status : UInt16) (body : String), 400 ≤ status → ∃ error,
    (widgets.gateway (always status body) (.getRef "heads/main") ()).1 = .error error ∧
      error.status = some status ∧ error.kind = categorize (some status) error.message := by
  intro h
  obtain ⟨error, hreply, hstatus, -⟩ := h 502 "<html><body>502 Bad Gateway</body></html>" (by decide)
  have hlost : readReply (.getRef "heads/main")
      (.arrived 502 (Text.utf8 "<html><body>502 Bad Gateway</body></html>")) =
        .error ⟨.other, none, "Serde Error: expected value", true⟩ := by decide +kernel
  rw [gateway_always, hlost] at hreply
  obtain rfl := Except.error.inj hreply
  cases hstatus

/-! ## Answers that are of no use -/

/-- The text names an object: it consists of forty hexadecimal digits. -/
def NamesObject (text : String) : Prop := text.toList.length = 40 ∧ text.toList.all Git.isHexDigit = true

instance : DecidablePred NamesObject := fun _ => by unfold NamesObject; infer_instance

/-- A computation succeeds if `usable`, and fails as a useless answer does otherwise. -/
def Judged {α : Type} (usable : Prop) (x : Except ApiError α) : Prop :=
  usable ∧ (∃ a, x = .ok a) ∨ ¬ usable ∧ ∃ reason, x = .error (.invalidResponse reason)

namespace Judged

variable {α β : Type} {p q : Prop}

theorem ok (a : α) : Judged True (.ok a : Except ApiError α) := .inl ⟨trivial, a, rfl⟩

theorem congr {x : Except ApiError α} (h : Judged p x) (hpq : p ↔ q) : Judged q x := by
  unfold Judged
  rwa [← hpq]

theorem bind {x : Except ApiError α} {f : α → Except ApiError β} (hx : Judged p x)
    (hf : ∀ a, Judged q (f a)) : Judged (p ∧ q) (x >>= f) := by
  rcases hx with ⟨hp, a, rfl⟩ | ⟨hp, reason, rfl⟩
  · rcases hf a with ⟨hq, b, hb⟩ | ⟨hq, reason, herror⟩
    · exact .inl ⟨⟨hp, hq⟩, b, hb⟩
    · exact .inr ⟨fun h => hq h.2, reason, herror⟩
  · exact .inr ⟨fun h => hp h.1, reason, rfl⟩

theorem mapM {usable : α → Prop} {f : α → Except ApiError β} (h : ∀ a, Judged (usable a) (f a)) (l : List α) :
    Judged (∀ a ∈ l, usable a) (l.mapM f) := by
  induction l with
  | nil => exact (ok []).congr ⟨fun _ => nofun, fun _ => trivial⟩
  | cons a l ih =>
    rw [List.mapM_cons]
    have hcons := (h a).bind fun b => ih.bind fun bs => ok (b :: bs)
    exact hcons.congr (by simp)

end Judged

theorem objectId_judged (member text : String) : Judged (NamesObject text) (objectId member text) := by
  unfold objectId Git.ObjectId.parse
  by_cases h : text.toList.length = 40 ∧ text.toList.all Git.isHexDigit = true
  · rw [dif_pos h]
    exact .inl ⟨h, _, rfl⟩
  · rw [dif_neg h]
    exact .inr ⟨h, _, rfl⟩

theorem refBody_judged (b : RefBody) : Judged (NamesObject b.target) b.response := by
  have h := (objectId_judged "object.sha" b.target).bind fun id => Judged.ok (Response.ref ⟨b.name, id⟩)
  exact h.congr (by simp)

theorem treeResponse_judged (text : String) : Judged (NamesObject text) (treeResponse text) := by
  have h := (objectId_judged "sha" text).bind fun id => Judged.ok (Response.tree id)
  exact h.congr (by simp)

theorem commitBody_judged (b : CommitBody) :
    Judged (∀ text ∈ b.id :: b.tree :: b.parents, NamesObject text) b.response := by
  have h := (Judged.mapM (objectId_judged "parents[].sha") b.parents).bind fun parents =>
    (objectId_judged "sha" b.id).bind fun id => (objectId_judged "tree.sha" b.tree).bind fun tree =>
      Judged.ok (Response.commit ⟨id, b.message, b.author, tree, parents⟩)
  exact h.congr (by simp only [List.forall_mem_cons]; tauto)

theorem pullRequestBody_judged (title : String) (b : PullRequestBody) :
    Judged (b.url.isSome = true) (b.response title) := by
  unfold PullRequestBody.response
  cases b.url with
  | some url => exact .inl ⟨rfl, _, rfl⟩
  | none => exact .inr ⟨by decide, _, rfl⟩

/-- What is read can be used: all ids name objects, and a pull request has a page. -/
def Usable : (e : Effect) → (reading e).α → Prop
  | .getRef _ => fun (b : RefBody) => NamesObject b.target
  | .createRef .. => fun (b : RefBody) => NamesObject b.target
  | .updateRef .. => fun (b : RefBody) => NamesObject b.target
  | .createTree .. => fun text => NamesObject text
  | .getCommit _ => fun (b : CommitBody) => ∀ text ∈ b.id :: b.tree :: b.parents, NamesObject text
  | .createCommit .. => fun (b : CommitBody) => ∀ text ∈ b.id :: b.tree :: b.parents, NamesObject text
  | .createPullRequest _ => fun (b : PullRequestBody) => b.url.isSome
  | .postComment .. => fun _ => True

theorem response_judged (e : Effect) (a : (reading e).α) : Judged (Usable e a) ((reading e).response a) := by
  cases e with
  | getRef name => exact refBody_judged a
  | createRef name target => exact refBody_judged a
  | updateRef name target force => exact refBody_judged a
  | createTree base entries => exact treeResponse_judged a
  | getCommit id => exact commitBody_judged a
  | createCommit message author tree parents => exact commitBody_judged a
  | createPullRequest request => exact pullRequestBody_judged request.title a
  | postComment issue body => exact Judged.ok _

/-! ## The kinds of errors about answers that arrive -/

/-- The body of the answer to an effect cannot be read, for the reason that the text gives. -/
def Unreadable (e : Effect) (status : UInt16) (body : List UInt8) (text : String) : Prop :=
  Granted status ∧ (∃ reason, (reading e).decode.readFirst body = .error reason ∧ text = unreadableText reason) ∨
    ¬ Granted status ∧ ∃ reason, errorBody.readAll body = .error reason ∧ text = "Serde Error: " ++ reason.message

theorem categorize_some_ne (status : UInt16) (message : String) :
    categorize (some status) message ≠ .network ∧ categorize (some status) message ≠ .invalidResponse := by
  unfold categorize
  dsimp only
  split_ifs <;> exact ⟨nofun, nofun⟩

theorem categorize_none_eq_network_iff {message : String} :
    categorize none message = .network ↔ mentions networkPhrases message = true :=
  categorize_eq_iff (by decide)

theorem categorize_none_ne (message : String) : categorize none message ≠ .invalidResponse := by
  unfold categorize
  dsimp only
  split_ifs <;> nofun

theorem readReply_of_unreadable {e : Effect} {status : UInt16} {body : List UInt8} {text : String}
    (h : Unreadable e status body text) : readReply e (.arrived status body) = .error (.exchange none text) := by
  rcases h with ⟨hgranted, reason, hread, rfl⟩ | ⟨hgranted, reason, hread, rfl⟩
  · rw [readReply_of_granted hgranted, readSuccess, hread]
  · rw [readReply_of_not_granted hgranted, readFailure, hread]

/-- What an answer that arrives comes to. -/
theorem readReply_cases (e : Effect) (status : UInt16) (body : List UInt8) :
    (∃ text, Unreadable e status body text) ∨
      (Granted status ∧ ∃ a, (reading e).decode.readFirst body = .ok a ∧
        readReply e (.arrived status body) = (reading e).response a) ∨
      ∃ message, readReply e (.arrived status body) = .error (.exchange (some status) message) := by
  by_cases h : Granted status
  · cases hread : (reading e).decode.readFirst body with
    | ok a => exact .inr (.inl ⟨h, a, rfl, by rw [readReply_of_granted h, readSuccess, hread]⟩)
    | error reason => exact .inl ⟨_, .inl ⟨h, reason, hread, rfl⟩⟩
  · cases hread : errorBody.readAll body with
    | ok message => exact .inr (.inr ⟨message, by rw [readReply_of_not_granted h, readFailure, hread]⟩)
    | error reason => exact .inl ⟨_, .inr ⟨h, reason, hread, rfl⟩⟩

theorem network_iff {e : Effect} {status : UInt16} {body : List UInt8} :
    (∃ error, readReply e (.arrived status body) = .error error ∧ error.kind = .network) ↔
      ∃ text, Unreadable e status body text ∧ mentions networkPhrases text = true := by
  constructor
  · rintro ⟨error, hreply, hkind⟩
    rcases readReply_cases e status body with ⟨text, htext⟩ | ⟨-, a, -, hresponse⟩ | ⟨message, hmessage⟩
    · obtain rfl := Except.error.inj (hreply.symm.trans (readReply_of_unreadable htext))
      exact ⟨text, htext, categorize_none_eq_network_iff.1 hkind⟩
    · -- what has been read is judged without a look at words
      have hjudged := response_judged e a
      rw [← hresponse, hreply] at hjudged
      rcases hjudged with ⟨-, response, hok⟩ | ⟨-, reason, herror⟩
      · cases hok
      · cases herror
        cases hkind
    · obtain rfl := Except.error.inj (hreply.symm.trans hmessage)
      exact absurd hkind (categorize_some_ne status message).1
  · rintro ⟨text, htext, hmentions⟩
    exact ⟨_, readReply_of_unreadable htext, categorize_none_eq_network_iff.2 hmentions⟩

theorem invalidResponse_iff {e : Effect} {status : UInt16} {body : List UInt8} :
    (∃ error, readReply e (.arrived status body) = .error error ∧ error.kind = .invalidResponse) ↔
      Granted status ∧ ∃ a, (reading e).decode.readFirst body = .ok a ∧ ¬ Usable e a := by
  constructor
  · rintro ⟨error, hreply, hkind⟩
    rcases readReply_cases e status body with ⟨text, htext⟩ | ⟨hgranted, a, hread, hresponse⟩ | ⟨message, hmessage⟩
    · obtain rfl := Except.error.inj (hreply.symm.trans (readReply_of_unreadable htext))
      exact absurd hkind (categorize_none_ne text)
    · have hjudged := response_judged e a
      rw [← hresponse, hreply] at hjudged
      rcases hjudged with ⟨-, response, hok⟩ | ⟨husable, -⟩
      · cases hok
      · exact ⟨hgranted, a, hread, husable⟩
    · obtain rfl := Except.error.inj (hreply.symm.trans hmessage)
      exact absurd hkind (categorize_some_ne status message).2
  · rintro ⟨hgranted, a, hread, husable⟩
    have hreply : readReply e (.arrived status body) = (reading e).response a := by
      rw [readReply_of_granted hgranted, readSuccess, hread]
    rcases response_judged e a with ⟨h, -⟩ | ⟨-, reason, herror⟩
    · exact absurd h husable
    · exact ⟨_, hreply.trans herror, rfl⟩

/-- **What the kinds say of an answer that arrived.** The kind of lost answers stands for a body that cannot be
read, if the reason happens to speak of networks, be it in the path or in what it quotes, and the kind of unusable
answers for one that was read. A body that cannot be read never has the latter kind. -/
theorem kinds_of_arrived {σ : Type} {c : Client} {transport : Transport σ} {e : Effect} {s s' : σ} {request : Request}
    {status : UInt16} {body : List UInt8} (hrequest : c.request? e = some request)
    (hreply : transport request s = (.arrived status body, s')) :
    ((∃ error, (c.gateway transport e s).1 = .error error ∧ error.kind = .network) ↔
        ∃ text, Unreadable e status body text ∧ mentions networkPhrases text = true) ∧
      ((∃ error, (c.gateway transport e s).1 = .error error ∧ error.kind = .invalidResponse) ↔
        Granted status ∧ ∃ a, (reading e).decode.readFirst body = .ok a ∧ ¬ Usable e a) ∧
      ∀ text, Unreadable e status body text → ∃ error, (c.gateway transport e s).1 = .error error ∧
        error.status = none ∧ error.message = text ∧ (error.kind = .network ∨ error.kind = .other) := by
  rw [gateway_of_arrived hrequest hreply]
  refine ⟨network_iff, invalidResponse_iff, fun text h => ⟨_, readReply_of_unreadable h, rfl, rfl, ?_⟩⟩
  show categorize none text = .network ∨ categorize none text = .other
  unfold categorize
  dsimp only
  split_ifs
  · exact .inl rfl
  · exact .inr rfl

/-- The reason tells where the body breaks off, with the name of the member. -/
example : readReply (.getRef "heads/main") (.arrived 200 (Text.utf8 "\x7b\"connection\":")) =
    .error ⟨.network, none, "JSON Error in connection: EOF while parsing a value", true⟩ := by decide +kernel

theorem bad_id_unusable : ∃ error,
    (widgets.gateway (always 200 r#"{"ref":"refs/heads/main","object":{"sha":"main"}}"#)
      (.getRef "heads/main") ()).1 = .error error ∧ error.kind = .invalidResponse := by
  obtain ⟨request, hrequest⟩ := widgets_asks
  have hread : RefBody.decode.readFirst (Text.utf8 r#"{"ref":"refs/heads/main","object":{"sha":"main"}}"#) =
      .ok ⟨"refs/heads/main", "main"⟩ := by cbv
  have husable : ¬ NamesObject "main" := by decide
  have h := kinds_of_arrived hrequest
    (rfl : always 200 r#"{"ref":"refs/heads/main","object":{"sha":"main"}}"# request () = _)
  exact h.2.1.2 ⟨⟨by decide, by decide⟩, ⟨"refs/heads/main", "main"⟩, hread, husable⟩

/-- An answer that arrived can be reported as lost, for a word in it. -/
theorem arrived_reported_lost : ¬ ∀ (status : UInt16) (body : String) (error : ApiError),
    (widgets.gateway (always status body) (.getRef "heads/main") ()).1 = .error error → error.kind ≠ .network := by
  intro h
  have hlost : readReply (.getRef "heads/main")
      (.arrived 200 (Text.utf8 r#"{"ref":"refs/heads/main","object":"connection"}"#)) =
        .error ⟨.network, none, unreadableText (.data [.field "object"]
          (.wrongType (.string "connection") "struct RefObject")), true⟩ := by decide +kernel
  exact h 200 r#"{"ref":"refs/heads/main","object":"connection"}"# _ ((gateway_always _ _).trans hlost) rfl

end CommentBot.Rest
