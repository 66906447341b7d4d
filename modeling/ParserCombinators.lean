import ParserCombinators.Main
import ParserCombinators.Proofs.CommandLine.Arguments
import ParserCombinators.Proofs.CommandLine.Response
import ParserCombinators.Proofs.Grammar.Parentheses
import ParserCombinators.Proofs.Grammar.Rewording
import ParserCombinators.Proofs.Grammar.Shift
import ParserCombinators.Proofs.Grammar.Soundness
import ParserCombinators.Proofs.Grammar.Termination
import ParserCombinators.Proofs.Grammar.Verbatim
import ParserCombinators.Proofs.Parser.Alternatives
import ParserCombinators.Proofs.Parser.Pattern
import ParserCombinators.Proofs.Parser.Rounds
import ParserCombinators.Proofs.Parser.Separated
import ParserCombinators.Proofs.Query.Decoding
import ParserCombinators.Proofs.Report.Lossless
import ParserCombinators.Proofs.Parser.Chaining
import ParserCombinators.Proofs.Parser.Stepwise
import ParserCombinators.Proofs.Parser.Longest
import ParserCombinators.Proofs.Text.Splitting
import ParserCombinators.Proofs.CommandLine.List
import ParserCombinators.Proofs.Parser.Nested
import ParserCombinators.Proofs.Grammar.Counted
import ParserCombinators.Proofs.Report.Diagnosis
import ParserCombinators.Proofs.Report.Description
