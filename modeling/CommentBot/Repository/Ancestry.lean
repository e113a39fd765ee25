import CommentBot.Git.Object
import CommentBot.Table

/-!
# Ancestry of commits

A commit descends from another one if a chain of parents leads there. The search visits each stored commit
once, so it ends on every table of commits.
-/

namespace CommentBot.Repository

open Git

/-- Whether `ancestor` is one of the `pending` ids or is reached from one of them through parents. -/
def reaches (ancestor : ObjectId) (commits : Table ObjectId Commit) (pending : List ObjectId) : Bool :=
  match pending with
  | [] => false
  | id :: rest =>
    if id = ancestor then true
    else
      match _h : commits.get? id with
      | some commit => reaches ancestor (commits.erase id) (commit.parents ++ rest)
      | none => reaches ancestor commits rest
termination_by (commits.entries.length, pending.length)
decreasing_by
  · exact .left _ _ (Table.length_erase_lt _h)
  · exact .right _ (Nat.lt_succ_self _)

/-- Whether one commit is another one or an ancestor of it. -/
def isAncestor (commits : Table ObjectId Commit) (ancestor descendant : ObjectId) : Bool :=
  reaches ancestor commits [descendant]

end CommentBot.Repository
