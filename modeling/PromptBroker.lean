import PromptBroker.Broker.Request
import PromptBroker.Proofs.Request.Accounts
import PromptBroker.Proofs.Request.Answers
import PromptBroker.Proofs.Request.Refusals
import PromptBroker.Proofs.Json.Extraction
import PromptBroker.Proofs.Json.Recovery
import PromptBroker.Proofs.Resanitize
import PromptBroker.Proofs.VectorStore.RoundTrip
import PromptBroker.Proofs.VectorStore.Tenure
import PromptBroker.Proofs.Token.Resubmission
import PromptBroker.Proofs.Json.Commentary
import PromptBroker.Proofs.Request.Verdict
import PromptBroker.Proofs.Request.Wording
import PromptBroker.Proofs.Request.Upkeep
import PromptBroker.Proofs.VectorStore.Latch
import PromptBroker.Proofs.Request.KnownVectors
import PromptBroker.Proofs.Defaults
import PromptBroker.Proofs.Request.Storage
import PromptBroker.Proofs.Base64
import PromptBroker.Proofs.Request.LastWord
import PromptBroker.Proofs.Request.Isolation
import PromptBroker.Proofs.Request.Output
import PromptBroker.Proofs.Errands
import PromptBroker.Proofs.Request.Nesting
import PromptBroker.Proofs.Text.DataUrl
import PromptBroker.Proofs.Request.Posted
import PromptBroker.Proofs.Request.Recordings
import PromptBroker.Proofs.Request.Temperature
import PromptBroker.Proofs.Instructions
import PromptBroker.Proofs.Token.Cache
import PromptBroker.Proofs.Options.Validation
import PromptBroker.Proofs.Token.Lifetime
import PromptBroker.Proofs.Text.LineBreaks
import PromptBroker.Proofs.Page.Document
import PromptBroker.Proofs.Reformat
import PromptBroker.Proofs.Usage
import PromptBroker.Proofs.Options.Images
import PromptBroker.Proofs.Decimal.Single
import PromptBroker.Proofs.Request.Vectors
import PromptBroker.Proofs.Request.Conversation
import PromptBroker.Proofs.Json.Balance
import PromptBroker.Proofs.Text.Spans
