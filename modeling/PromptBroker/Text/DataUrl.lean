/-!
# Data addresses

A data address carries a file in its text: `data:`, the media type, `;base64,`
and the encoded bytes. The first comma ends the header, so the media type holds
none, while the encoded bytes may.
-/

namespace PromptBroker.Text.DataUrl

/-- The media type and the encoded bytes of a data address; neither may be empty. -/
def parse? (url : String) : Option (String × String) := do
  let rest ← url.dropPrefix? "data:"
  let payload ← (rest.dropWhile (· != ',')).dropPrefix? ','
  let mediaType ← (rest.takeWhile (· != ',')).dropSuffix? ";base64"
  if mediaType.isEmpty || payload.isEmpty then none else some (mediaType.copy, payload.copy)

/-- The data address of a media type and encoded bytes. -/
def build (mediaType payload : String) : String :=
  "data:" ++ mediaType ++ ";base64," ++ payload

end PromptBroker.Text.DataUrl
