import Parley.Main
import Parley.Script
import Parley.Proofs.Conversation.Routing
import Parley.Proofs.Conversation.Answer
import Parley.Proofs.Conversation.Conditions
import Parley.Proofs.Conversation.Transcript
import Parley.Proofs.Conversation.Ownership
import Parley.Proofs.Conversation.SharedState
import Parley.Proofs.Conversation.Outermost
import Parley.Proofs.Conversation.Nesting
import Parley.Proofs.Conversation.Escalation
import Parley.Proofs.Conversation.Termination
import Parley.Proofs.Conversation.Reply
import Parley.Proofs.Conversation.Straying
import Parley.Proofs.Conversation.Telling
import Parley.Proofs.Flow.Merging
import Parley.Proofs.Flow.Unfolding
import Parley.Proofs.Config.Acceptance
import Parley.Proofs.Config.Declared
import Parley.Proofs.Examples.Quiz.Equivalence
import Parley.Proofs.Examples.Quiz.Answers
import Parley.Proofs.Examples.Quiz.Retries
import Parley.Proofs.Examples.Quiz.Agreement
import Parley.Proofs.Numeral
import Parley.Proofs.Rendering
import Parley.Proofs.Config.Writing
import Parley.Proofs.Config.Folder
import Parley.Proofs.Config.Splitting
import Parley.Proofs.Value.Merging
import Parley.Proofs.Terminal.Markup
import Parley.Proofs.Console.Speaking
import Parley.Proofs.Console.Demo
import Parley.Proofs.Console.Validation
