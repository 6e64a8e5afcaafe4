import PromptBroker.Options.Schema
import PromptBroker.Purpose.Basic

/-!
# Options of each purpose

The options that callers may send, by purpose, with their types.
-/

namespace PromptBroker.Purpose

/-- The options that a purpose accepts, in key order. -/
def schema : Purpose → Schema
  | .chat => [("conversationcontext", .array), ("temperature", .float)]
  | .translate => [("targetlanguage", .text), ("temperature", .float)]
  | .singlePrompt | .feedback | .questionGeneration => [("temperature", .float)]
  | .transcription =>
    [("audiofile", .raw), ("filename", .text), ("language", .text), ("prompt", .text),
      ("response_format", .text), ("temperature", .float), ("timestamp_granularities", .array)]
  | .speech =>
    [("filename", .text), ("instructions", .text), ("itemid", .int), ("voices", .array)]
  | .imageGeneration => [("filename", .text), ("itemid", .int), ("sizes", .array)]
  | .imageDescription => [("image", .raw)]
  | .agent =>
    [("conversationcontext", .array), ("documentationurls", .array), ("formelements", .array),
      ("lang", .text)]
  | .retrieval => [("action", .text), ("metadata", .array), ("topk", .int)]
  | .embedding => []

end PromptBroker.Purpose
