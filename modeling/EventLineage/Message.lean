import EventLineage.InputError
import EventLineage.Json.Record

/-! # Messages: payloads tagged with their type

Commands, events and rejections carry their content as a message: the stable name of a type and the
JSON form of a value of it. Nobody needs to know the type to pass a message on. -/
namespace EventLineage

structure Message where
  typeUrl : String
  value : Payload
  deriving Inhabited, BEq

/-- A type whose values can be messages: its stable name, and how its values are written as JSON
and read back. Either may fail. -/
structure MessageType (α : Type) where
  url : String
  encode : α → Except Json.Complaint Payload
  decode : Payload → Except Json.Complaint α

/-- The type whose values a codec writes. -/
def MessageType.ofCodec (url : String) (c : Codec α) : MessageType α where
  url := url
  encode a := .ok (c.toValue a)
  decode := c.fromValue

namespace Message

/-- What is said about a payload that cannot be written or read as a type. -/
def misfit (t : MessageType α) (c : Json.Complaint) : InputError :=
  .serialization s!"{t.url}: {c.text}"

def pack (t : MessageType α) (a : α) : Except InputError Message :=
  match t.encode a with
  | .ok value => .ok ⟨t.url, value⟩
  | .error c => .error (misfit t c)

def isOf (t : MessageType α) (m : Message) : Bool := m.typeUrl == t.url

/-- Read the payload as a type. A message of another type is refused whatever its payload is. -/
def unpack (t : MessageType α) (m : Message) : Except InputError α :=
  if m.isOf t then
    match t.decode m.value with
    | .ok a => .ok a
    | .error c => .error (misfit t c)
  else .error (.typeMismatch t.url m.typeUrl)

def codec : Codec Message :=
  (Codec.record "Message" (.field "type_url" .string (.field "value" .payload .none))).map
    (fun r => ⟨r.1, r.2.1⟩) fun m => (m.typeUrl, m.value, ())

end Message
end EventLineage
