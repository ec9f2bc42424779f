import ChatFlow.Gateway

/-!
# Channels

The channels over which customers are reached, with what it takes to send on them. Only an active
channel can be used. Access tokens are open here; outside they are kept sealed (`sealToken`), and
opening a sealed token gives the token back.
-/

namespace ChatFlow

/-- A channel. -/
structure Channel where
  id : String
  name : Option String
  phoneNumberId : Option String
  businessAccountId : Option String
  accessToken : Option String
  /-- The token that the provider has to show when it asks for the channel's address. -/
  verifyToken : Option String
  isActive : Bool
  deriving DecidableEq, Repr

/-- The credentials of a channel. -/
def Channel.credentials (channel : Channel) : Credentials :=
  ⟨channel.accessToken, channel.phoneNumberId⟩

/-- The channels, in the order in which they were added. -/
abbrev Channels := List Channel

/-- The active channel of an id. -/
def Channels.usable? (channels : Channels) (id : Option String) : Option Channel :=
  channels.find? fun channel => some channel.id == id && channel.isActive

/-- Adds a channel. An empty access token counts as none. -/
def Channels.add (channels : Channels) (channel : Channel) : Channels :=
  channels ++ [{ channel with accessToken := presentText? channel.accessToken }]

/-- The credentials for a channel; without an active channel there are none, and nothing can be
sent. -/
def Channels.credentials (channels : Channels) (id : Option String) : Credentials :=
  match channels.usable? id with
  | some channel => channel.credentials
  | none => ⟨none, none⟩

end ChatFlow
