import VoiceDialogue.Adapter.Standard
import VoiceDialogue.Compile
import VoiceDialogue.Conventions.Decode
import VoiceDialogue.Markup.Edit
import VoiceDialogue.Markup.Reader
import VoiceDialogue.Turn.Outcome
import VoiceDialogue.Proofs.Markup.Carriable
import VoiceDialogue.Proofs.Markup.Grammar
import VoiceDialogue.Proofs.Markup.RoundTrip
import VoiceDialogue.Proofs.Adapter.Sequence
import VoiceDialogue.Proofs.Adapter.Invocations
import VoiceDialogue.Proofs.Adapter.Recording
import VoiceDialogue.Proofs.Compile.Outcome
import VoiceDialogue.Proofs.Render.Obstacles
import VoiceDialogue.Proofs.Compile.CompilerAdapters
import VoiceDialogue.Proofs.Render.ObjectTag
import VoiceDialogue.Proofs.Render.Parts
import VoiceDialogue.Proofs.Compile.WellFormed
import VoiceDialogue.Proofs.Compile.Acceptance
import VoiceDialogue.Proofs.Json.Members
import VoiceDialogue.Proofs.Turn.Canonical
import VoiceDialogue.Proofs.Turn.Outcome
import VoiceDialogue.Proofs.Compile.Characters
import VoiceDialogue.Proofs.Markup.Search
import VoiceDialogue.Proofs.Render.Branches
import VoiceDialogue.Proofs.Render.Prompt
import VoiceDialogue.Proofs.Render.Shape
import VoiceDialogue.Proofs.Render.Elements
import VoiceDialogue.Proofs.Compile.Reports
import VoiceDialogue.Proofs.Render.Determined
import VoiceDialogue.Proofs.Compile.Faithful
import VoiceDialogue.Proofs.Compile.Calls
import VoiceDialogue.Proofs.Compile.FailFast
import VoiceDialogue.Proofs.Compile.Log
import VoiceDialogue.Proofs.Render.Paths
import VoiceDialogue.Proofs.Compile.Onward
import VoiceDialogue.Proofs.Compile.ObjectAttributes
import VoiceDialogue.Proofs.Turn.Settings
import VoiceDialogue.Proofs.Turn.Checks
import VoiceDialogue.Proofs.Turn.Drafts
import VoiceDialogue.Proofs.Turn.Valid
import VoiceDialogue.Proofs.Compile.ValidTurns
import VoiceDialogue.Proofs.Compile.Values
import VoiceDialogue.Proofs.Compile.Unset
import VoiceDialogue.Proofs.Adapter.Muted
import VoiceDialogue.Proofs.Compile.OwnLog
import VoiceDialogue.Proofs.Compile.Completion
import VoiceDialogue.Proofs.Json.Grammar
import VoiceDialogue.Proofs.Json.Everywhere
import VoiceDialogue.Proofs.Json.Scanning
import VoiceDialogue.Proofs.Json.Reading
import VoiceDialogue.Proofs.Json.Writing
import VoiceDialogue.Proofs.Turn.LogLine
import VoiceDialogue.Proofs.Conventions.Names
import VoiceDialogue.Proofs.Conventions.Reading
import VoiceDialogue.Proofs.Conventions.Overrides
import VoiceDialogue.Proofs.Conventions.Saved
import VoiceDialogue.Proofs.Compile.EmptyNames
import VoiceDialogue.Proofs.Markup.Walks
import VoiceDialogue.Proofs.Markup.Places
import VoiceDialogue.Proofs.Markup.Numbering
import VoiceDialogue.Proofs.Markup.History
import VoiceDialogue.Proofs.Render.Separators
import VoiceDialogue.Proofs.Json.Canonical
import VoiceDialogue.Proofs.Json.Strings
import VoiceDialogue.Proofs.Compile.JsonParameters
import VoiceDialogue.Proofs.Turn.OutcomeClasses
import VoiceDialogue.Proofs.Turn.Durations
import VoiceDialogue.Proofs.Compile.CacheAges
import VoiceDialogue.Proofs.Adapter.Observers
import VoiceDialogue.Proofs.Compile.Transparent
