import CallScribe.Text.CharSet
import CallScribe.Text.Word
import CallScribe.Text.Blank
import CallScribe.Text.Category
import CallScribe.Text.Script
import CallScribe.Text.Folding
import CallScribe.Pattern.Compiler
import CallScribe.Pattern.Rewriting
import CallScribe.Decimal.Shortest
import CallScribe.Json.Parser
import CallScribe.Json.Printer
import CallScribe.Redaction.Policy
import CallScribe.Call.RawRequest
import CallScribe.Call.Payload
import CallScribe.Langfuse.Record
import CallScribe.Dispatch.Deadline
import CallScribe.Toml.Document
import CallScribe.Url.Parser
import CallScribe.Config.Load
import CallScribe.Langfuse.Credentials
import CallScribe.Dispatch.TracingLog
import CallScribe.Langfuse.Recorder
import CallScribe.Langfuse.Exchange
import CallScribe.Call.Context
import CallScribe.Dispatch.Configured
import CallScribe.Call.Identifier
import CallScribe.Command.Help
import CallScribe.Command.Run
import CallScribe.Config.Watcher
import CallScribe.Main
import CallScribe.Proofs.Redaction.Coverage
import CallScribe.Proofs.Redaction.Separators
import CallScribe.Proofs.Redaction.Cuts
import CallScribe.Proofs.Call.RawRequest
import CallScribe.Proofs.Call.Exposure
import CallScribe.Proofs.Call.Suppression
import CallScribe.Proofs.Dispatch.Isolation
import CallScribe.Proofs.Dispatch.Measurement
import CallScribe.Proofs.Config.Live
import CallScribe.Proofs.Config.Validation
import CallScribe.Proofs.Config.Reload
import CallScribe.Proofs.Call.Credentials
import CallScribe.Proofs.Call.SharedMetadata
import CallScribe.Proofs.Call.MaskedInput
import CallScribe.Proofs.Langfuse.Answer
import CallScribe.Proofs.Langfuse.Ingestion
import CallScribe.Proofs.Langfuse.Recorder
import CallScribe.Proofs.Dispatch.TracingLog
import CallScribe.Proofs.Langfuse.Keys
import CallScribe.Proofs.Except
import CallScribe.Proofs.Url.Base
import CallScribe.Proofs.Config.Registration
import CallScribe.Proofs.Command.Agreement
import CallScribe.Proofs.Redaction.Extension
import CallScribe.Proofs.Redaction.Depth
import CallScribe.Proofs.Call.CopyPaste
import CallScribe.Proofs.Langfuse.Endpoint
import CallScribe.Proofs.Langfuse.Credentials
import CallScribe.Proofs.Config.Rules
import CallScribe.Proofs.Config.Codec
import CallScribe.Proofs.Call.ApiKey
