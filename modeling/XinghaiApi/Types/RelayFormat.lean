import Mathlib.Data.Nat.Notation

/-!
# Formats of requests and API types of channels

A request comes in the format of its client. The format says which API types of channels may serve
it first; where none of them is left, the cross-format fallback adds some.
-/

namespace XinghaiApi

inductive APIType where
  | openAI
  | anthropic
  | gemini
  | moonshot
  | openAI2Claude
  | other (id : ℕ)
deriving DecidableEq

inductive RelayFormat where
  | openAI
  | claude
  | gemini
  | openAIResponses
  | openAIResponsesCompaction
  | openAIAudio
  | openAIImage
  | openAIRealtime
  | rerank
  | embedding
  | task
  | mjProxy
deriving DecidableEq

def allowedApiTypesForRelayFormat : RelayFormat → List APIType
  | .claude => [.anthropic, .moonshot]
  | .gemini => [.gemini]
  | _       => []

def deniedApiTypesForRelayFormat : RelayFormat → List APIType
  | .openAI | .openAIResponses | .openAIResponsesCompaction | .openAIAudio | .openAIImage
  | .openAIRealtime | .embedding => [.anthropic, .gemini, .moonshot]
  | _ => []

def crossFormatFallbackAllowed (original : List APIType) : List APIType :=
  if .anthropic ∈ original then .openAI2Claude :: original else original

def crossFormatFallbackDenied (original : List APIType) : List APIType :=
  if .anthropic ∈ original then original.filter fun t => t ≠ .anthropic ∧ t ≠ .moonshot
  else original

end XinghaiApi
