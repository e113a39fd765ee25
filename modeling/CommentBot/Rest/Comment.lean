import CommentBot.Json.Decoder.Record
import CommentBot.Net.Url
import CommentBot.Git.Codec

/-!
# Comments in answers

A comment comes with much that the bot does not need. All of it must be readable; only the id is kept.
-/

namespace CommentBot.Rest

open Json

/-- Appends a digit to a number of 64 bits. -/
def appendDigit (value : Nat) (c : Char) : Except String Nat :=
  if !c.isDigit then .error "invalid digit found in string"
  else if 10 * value + (c.toNat - 48) < UInt64.size then .ok (10 * value + (c.toNat - 48))
  else .error "number too large to fit in target type"

/-- The number of 64 bits that digits write, behind a plus sign or not. The first character that cannot be
appended decides what is wrong. -/
def readDigits (text : String) : Except String UInt64 :=
  match text.toList with
  | [] => .error "cannot parse integer from empty string"
  | '+' :: c :: digits => ((c :: digits).foldlM appendDigit 0).map UInt64.ofNat
  | digits => (digits.foldlM appendDigit 0).map UInt64.ofNat

/-- Reads an id, which is a number or a string of digits. The type is called `name`. -/
def looseId (name : String) : Decoder UInt64
  | _, .scalar (.number n) => do
    match ← n.read with
    | .integer (.ofNat value) => return UInt64.ofNat value
    | number => problem (.wrongType (.number number) s!"expected {name} as number or string")
  | _, .scalar (.string s) => do
    match readDigits (← s.read) with
    | .ok value => return value
    | .error reason => problem (.rejected reason)
  | _, n => unexpected s!"expected {name} as number or string" n

/-- Reads a URL. -/
def url : Decoder Unit
  | _, .scalar (.string s) => do
    let text ← s.read
    match Net.Url.check text with
    | .ok () => return ()
    | .error e => problem (.rejected (e.message ++ ": " ++ Text.quote text))
  | _, n => unexpected "a string representing an URL" n

/-- The known relations of an author to a repository. -/
def associations : List String :=
  ["COLLABORATOR", "CONTRIBUTOR", "FIRST_TIMER", "FIRST_TIME_CONTRIBUTOR", "MANNEQUIN", "MEMBER", "NONE", "OWNER"]

/-- Whether a value tells how the author is related to the repository: any word does, and so does a known one
as the only key of an object. -/
def isAssociation : Value → Bool
  | .string _ => true
  | .object [(name, .null)] => associations.contains name
  | _ => false

/-- Reads how the author is related to the repository. -/
def association : Decoder Unit := fun ctx n => do
  if isAssociation (← n.value ctx.depth) then return ()
  else problem (.rejected "data did not match any variant of untagged enum AuthorAssociation")

/-- A field that must be readable. -/
def needed {α : Type} (name : String) (read : Decoder α) : Fields Unit :=
  (fun _ => ()) <$> Fields.required name read

/-- A field that must be readable if it is there. -/
def allowed {α : Type} (name : String) (read : Decoder α) : Fields Unit :=
  (fun _ => ()) <$> Fields.optional name read

/-- All of some fields. -/
def allOf (fields : List (Fields Unit)) : Fields Unit :=
  fields.foldr (fun f rest => (fun _ _ => ()) <$> f <*> rest) (Fields.pure ())

/-- Reads the author of a comment. -/
def author : Decoder Unit :=
  Fields.record "struct Author" <| allOf <|
    [needed "login" .string, needed "id" (looseId "UserId"), needed "node_id" .string,
      needed "avatar_url" url, needed "gravatar_id" .string] ++
    ["url", "html_url", "followers_url", "following_url", "gists_url", "starred_url", "subscriptions_url",
      "organizations_url", "repos_url", "events_url", "received_events_url"].map (needed · url) ++
    [needed "type" .string, needed "site_admin" .bool, allowed "name" .string, allowed "patch_url" .string,
      allowed "email" .string]

/-- Reads a comment and keeps its id. -/
def comment : Decoder UInt64 :=
  Fields.record "struct Comment" <|
    (fun id _ => id) <$> .required "id" (looseId "CommentId") <*> allOf
      [needed "node_id" .string, needed "url" url, needed "html_url" url, allowed "issue_url" url,
        allowed "body" .string, allowed "body_text" .string, allowed "body_html" .string,
        needed "author_association" association, needed "user" author,
        needed "created_at" Time.Instant.decode, allowed "updated_at" Time.Instant.decode]

end CommentBot.Rest
