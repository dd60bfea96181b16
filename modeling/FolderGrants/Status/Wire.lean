import FolderGrants.Json.Decoder
import FolderGrants.Status.Basic

/-!
# Status on the wire

How conditions and status are written as JSON and read back.
-/

namespace FolderGrants

open Json (str obj)

/-- Reads whether a condition holds. -/
def Truth.decode : Decoder Truth :=
  .variant [("True", .yes), ("False", .no), ("Unknown", .unknown)]

namespace Condition

/-- A condition as JSON; `time` writes the transition time. -/
def encodeWith (time : Instant → String) (c : Condition) : Json :=
  obj [("type", str c.type), ("status", str c.truth.text), ("reason", str c.reason),
    ("message", str c.message), ("lastTransitionTime", str (time c.lastTransition))]

/-- A condition as JSON. -/
def encode (c : Condition) : Json := c.encodeWith Instant.toText

/-- Reads a condition. -/
def decode : Decoder Condition :=
  .declared "Condition" <|
    Condition.mk <$> .required "type" .text <*> .required "status" Truth.decode <*>
      .required "reason" .text <*> .required "message" .text <*>
      .required "lastTransitionTime" .instant

end Condition

namespace Status

/-- A status as JSON; `time` writes the transition times. -/
def encodeWith (time : Instant → String) (s : Status) : Json :=
  obj (Json.unlessEmpty "conditions" (Condition.encodeWith time) s.conditions ++
    [("processedGeneration", .int s.processedGeneration)])

/-- A status as JSON. -/
def encode (s : Status) : Json := s.encodeWith Instant.toText

/-- Reads a status. -/
def decode : Decoder Status :=
  .declared "FolderTreeStatus" <|
    Status.mk <$> .withDefault "conditions" (.list Condition.decode) [] <*>
      .withDefault "processedGeneration" .int64 0

end Status

end FolderGrants
