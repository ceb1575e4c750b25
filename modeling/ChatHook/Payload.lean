import ChatHook.Json.Quote
import ChatHook.Text.Quoted

/-!
# The message body

A chat webhook takes a JSON object with the text of the message under the key `content`.
-/

namespace ChatHook

/-- What is posted: the text of a message. -/
structure Payload where
  content : String

namespace Payload

/-- The JSON object that carries the message, as bytes. -/
def json (p : Payload) : Bytes :=
  Json.ascii '{' :: (Json.quote (Utf8.encode "content") ++
    Json.ascii ':' :: (Json.quote (Utf8.encode p.content) ++ [Json.ascii '}']))

/-- The payload shown for inspection. -/
def inspect (p : Payload) : String :=
  "Payload \x7b content: " ++ Text.quoted p.content ++ " \x7d"

end Payload

end ChatHook
