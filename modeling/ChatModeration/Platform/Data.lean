/-
ChatModeration.Platform.Data — alerts as data.
-/
import ChatModeration.Context.Data
import ChatModeration.Platform

namespace ChatModeration

def AlertChannel.toValue (c : AlertChannel) : Value := Value.record [("id", .text c.id)]

def Alert.toValue (a : Alert) : Value :=
  Value.record [("username", .text a.username), ("content", .text a.content),
    ("embeds", .list (a.embeds.map RichContent.toValue))]

end ChatModeration
