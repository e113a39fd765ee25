import CommentBot.Git.Object

/-!
# Settings of the workflows

The names and texts that the workflows use.
-/

namespace CommentBot.Workflow

/-- A file that the bot commits. -/
structure File where
  path : String
  text : String
  deriving DecidableEq, Repr

/-- The file as an entry of a tree. -/
def File.entry (f : File) : Git.TreeEntry := .file f.path f.text

/-- The names and texts that the workflows use. -/
structure Settings where
  /-- The branch to branch off from, and to open pull requests against. -/
  baseBranch : String := "main"
  /-- The branch that the bot creates. -/
  botBranch : String := "myNewBranch"
  /-- The branch from which a pull request is opened when the bot creates none. -/
  headBranch : String := "pr-branch"
  /-- The files that the bot commits. -/
  files : List File := [⟨"file1.txt", "file content"⟩, ⟨"file2.txt", "another file content"⟩]
  commitMessage : String := "This is a commit by bot"
  authorName : String := "codetoolz-bot"
  authorEmail : String := "john@example.com"
  pullRequestTitle : String := "First PR"
  pullRequestBody : String := "This is a PR created by a bot"
  deriving DecidableEq, Repr

namespace Settings

/-- The reference of the base branch, without `refs/`. -/
def baseRef (s : Settings) : String := "heads/" ++ s.baseBranch

/-- The reference of the bot's branch, without `refs/`. -/
def botRef (s : Settings) : String := "heads/" ++ s.botBranch

/-- The full name of the reference of the bot's branch. -/
def fullBotRef (s : Settings) : String := "refs/heads/" ++ s.botBranch

/-- The files as entries of a tree. -/
def treeEntries (s : Settings) : List Git.TreeEntry := s.files.map File.entry

end Settings

end CommentBot.Workflow
