import EventFilter.Main
import EventFilter.Proofs.Eval.Calls
import EventFilter.Proofs.Eval.Kinds
import EventFilter.Proofs.Pattern.Escaping
import EventFilter.Proofs.Phrase.Excerpts
import EventFilter.Proofs.Token.Cursor
import EventFilter.Proofs.Eval.Arguments
import EventFilter.Proofs.Eval.Blame
import EventFilter.Proofs.Eval.Attributes
import EventFilter.Proofs.Eval.Course
import EventFilter.Proofs.Eval.Order
import EventFilter.Proofs.Eval.Membership
import EventFilter.Proofs.Phrase.Nesting
import EventFilter.Proofs.Json.RoundTrip
import EventFilter.Proofs.Event.RoundTrip
import EventFilter.Proofs.Event.Formats
import EventFilter.Proofs.Eval.Convention
import EventFilter.Proofs.Eval.Extension
import EventFilter.Proofs.Eval.Connectives
import EventFilter.Proofs.Eval.Comparison
import EventFilter.Proofs.Token.Spacing
import EventFilter.Proofs.Phrase.Recasing
import EventFilter.Proofs.Phrase.Parentheses
import EventFilter.Proofs.Phrase.Prefixes
import EventFilter.Proofs.Eval.Substrings
import EventFilter.Proofs.Event.Members
import EventFilter.Proofs.Command.Output
import EventFilter.Proofs.Eval.Division
import EventFilter.Proofs.Eval.Conversions
import EventFilter.Proofs.Phrase.Integers
import EventFilter.Proofs.Span.Merging
import EventFilter.Proofs.Descent.Ends
