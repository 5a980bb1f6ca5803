import NodeSettings.Files
import NodeSettings.Main
import NodeSettings.Proofs.Items
import NodeSettings.Proofs.Recording
import NodeSettings.Proofs.TopicLists
import NodeSettings.Proofs.Calls
import NodeSettings.Proofs.Written.Document
import NodeSettings.Proofs.Written.Reading
import NodeSettings.Proofs.Written.Recognition
import NodeSettings.Proofs.Sources
import NodeSettings.Proofs.Written.Items
import NodeSettings.Proofs.Isolation
import NodeSettings.Proofs.Messages
import NodeSettings.Proofs.Ranking
import NodeSettings.Proofs.Faults
import NodeSettings.Proofs.Outcomes
import NodeSettings.Proofs.Utf8
import NodeSettings.Proofs.Written.Texts
import NodeSettings.Proofs.Written.Building
import NodeSettings.Proofs.Completion
import NodeSettings.Proofs.Leniency
import NodeSettings.Proofs.Written.Cuts
import NodeSettings.Proofs.Written.Closing
import NodeSettings.Proofs.Series
import NodeSettings.Proofs.Findings
import NodeSettings.Proofs.Written.Members
import NodeSettings.Proofs.Written.Clearing
import NodeSettings.Proofs.Repair
import NodeSettings.Proofs.Inertness
import NodeSettings.Proofs.Written.Respelling
import NodeSettings.Proofs.Invariance
import NodeSettings.Proofs.Arguments
import NodeSettings.Proofs.Dashes
import NodeSettings.Proofs.Truncation
import NodeSettings.Proofs.Written.Writing
import NodeSettings.Proofs.RoundTrip
import NodeSettings.Proofs.Signals
import NodeSettings.Proofs.ExitStatus
import NodeSettings.Proofs.Repeats
import NodeSettings.Proofs.Heeding
import NodeSettings.Proofs.Nulls
import NodeSettings.Proofs.FlagPositions
import NodeSettings.Proofs.SecondPass
import NodeSettings.Proofs.OwnName
import NodeSettings.Proofs.LineFeeds
import NodeSettings.Proofs.Causes
import NodeSettings.Proofs.LogLines
import NodeSettings.Proofs.Rounding
import NodeSettings.Proofs.NumberRange
import NodeSettings.Proofs.NumberLiterals
