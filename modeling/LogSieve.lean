import LogSieve.Main
import LogSieve.Proofs.Agreement
import LogSieve.Proofs.LineFeeds
import LogSieve.Proofs.Named
import LogSieve.Proofs.ConditionFields
import LogSieve.Proofs.ConditionPattern
import LogSieve.Proofs.Containment
import LogSieve.Proofs.FinalSigma
import LogSieve.Proofs.Lua.Literal
import LogSieve.Proofs.ScriptLines
import LogSieve.Proofs.Shadowing
import LogSieve.Proofs.PatternMarkers
import LogSieve.Proofs.Envelope
import LogSieve.Proofs.Lua.Effects
import LogSieve.Proofs.MarkerNames
import LogSieve.Proofs.Continuation
import LogSieve.Proofs.Checking
import LogSieve.Proofs.SectionReading
import LogSieve.Proofs.MissingFields
import LogSieve.Proofs.Stratification
