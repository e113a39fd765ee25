/-!
# Names on a forge

The numbers and names by which a forge knows repositories, threads, comments and installations. Each is a
type of its own, so one cannot stand for another.
-/

namespace CommentBot.Forge

/-- The number of an issue or a pull request, which share one sequence. -/
structure IssueNumber where
  value : UInt64
  deriving DecidableEq, Repr

/-- The number as people write it. -/
def IssueNumber.text (n : IssueNumber) : String := s!"#{n.value.toNat}"

/-- The number of a comment. -/
structure CommentId where
  value : UInt64
  deriving DecidableEq, Repr

/-- The number in decimal digits. -/
def CommentId.text (id : CommentId) : String := toString id.value.toNat

/-- The number of an installation of the bot. -/
structure InstallationId where
  value : UInt64
  deriving DecidableEq, Repr

/-- The number in decimal digits. -/
def InstallationId.text (id : InstallationId) : String := toString id.value.toNat

/-- The name of one delivery of an event. -/
structure DeliveryId where
  value : String
  deriving DecidableEq, Repr

/-- A repository and its owner. -/
structure RepoId where
  owner : String
  repo : String
  deriving DecidableEq, Repr

/-- Both names with a slash between them. -/
def RepoId.text (r : RepoId) : String := r.owner ++ "/" ++ r.repo

end CommentBot.Forge
