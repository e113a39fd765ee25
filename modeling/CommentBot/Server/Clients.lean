import CommentBot.Repository.Apply
import CommentBot.Rest.Client
import CommentBot.Server.Delivery

/-!
# Sources of clients

Where the server gets its gateways from.
-/

namespace CommentBot.Server

open Forge

/-- Every repository is the one in memory, which keeps who was asked for. -/
def memoryClients : Clients Repository := fun installation repo r =>
  (.ok Repository.apply, { r with clients := r.clients ++ [(installation, repo)] })

/-- Every repository is reached through the same transport. -/
def restClients {σ : Type} (transport : Rest.Transport σ) : Clients σ := fun _ repo s =>
  (.ok ((Rest.Client.mk repo).gateway transport), s)

/-- There is no client. -/
def noClients {σ : Type} (e : ApiError) : Clients σ := fun _ _ s => (.error e, s)

end CommentBot.Server
