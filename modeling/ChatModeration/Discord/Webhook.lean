/-
ChatModeration.Discord.Webhook — the addresses of webhooks.

The address of a webhook holds its id and its token; it is recognised wherever
it stands in a text.
-/
import ChatModeration.Fault
import ChatModeration.Markdown

namespace ChatModeration.Discord.Webhook

/-- A webhook address; its first group is the id. -/
def address : Pattern :=
  let host := "https?:\\/\\/(?:ptb\\.|canary\\.)?discord\\.com"
  let path := "\\/api(?:\\/v\\d\x7b1,2\x7d)?\\/webhooks\\/(\\d\x7b17,19\x7d)\\/([\\w-]\x7b68\x7d)"
  (Pattern.read? true (Text.ofString (host ++ path))).getD ⟨.empty, 0, false⟩

/-- The id of the webhook whose address a text contains. -/
def id? (url : Text) : Except Fault Text :=
  let subject := Pattern.Subject.ofText address.ignoreCase url
  match address.search? subject with
  | some found => .ok (found.groupText subject 1)
  | none => .error .invalidWebhookUrl

end ChatModeration.Discord.Webhook
