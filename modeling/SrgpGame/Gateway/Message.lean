import Mathlib.Tactic.Common

set_option autoImplicit false

/-!
# Messages between gateway and game server

The gateway forwards what its clients send to the game server, and what the game server answers to
its clients, over a few connections that all clients share. A message names the channel of the
client it is from or for.

## Main definitions

* `MessageType` — `Message.Type`.
* `ServerMessage` — a message between gateway and game server.
-/

namespace SrgpGame.Gateway

/-- `Message.Type`: a client connects, disconnects, or sends something. -/
inductive MessageType where
  | Open
  | Close
  | Message
  deriving DecidableEq, Repr

namespace MessageType

/-- `Enum.ordinal`. -/
def ordinal : MessageType → Int32
  | .Open => 0
  | .Close => 1
  | .Message => 2

/-- `Type.get`. -/
def get (ordinal : Int32) : MessageType :=
  if ordinal = 0 then .Open else if ordinal = 1 then .Close else .Message

end MessageType

/-- `ServerMessage`. Its connection is the one it is read from, and is not part of it. -/
structure ServerMessage where
  type : MessageType
  /-- The channel of the client. -/
  forwardChannel : Int32
  lastClientMessageId : Int32 := 0
  lastServerMessageId : Int32 := 0
  /-- The bytes of the content, `none` where it is `null`. -/
  content : Option (List UInt8) := none
  deriving DecidableEq, Repr

end SrgpGame.Gateway
