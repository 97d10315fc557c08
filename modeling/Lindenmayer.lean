import Lindenmayer.Main
import Lindenmayer.Files.Disk
import Lindenmayer.Turtle.Recording
import Lindenmayer.Proofs.Grammar.Streaming
import Lindenmayer.Proofs.Grammar.Deterministic
import Lindenmayer.Proofs.Grammar.Language
import Lindenmayer.Proofs.Path.Painting
import Lindenmayer.Proofs.Binary64.Order
import Lindenmayer.Proofs.Binary64.Value
import Lindenmayer.Proofs.Decimal.Rounding
import Lindenmayer.Geometry.Hull
import Lindenmayer.Proofs.Geometry.Hull
import Lindenmayer.Turtle.Itinerary
import Lindenmayer.Proofs.Grammar.Extent
import Lindenmayer.Document.Transcript
import Lindenmayer.Proofs.Document.Writing
import Lindenmayer.Proofs.Turtle.Movement
import Lindenmayer.Document.Composition
import Lindenmayer.Proofs.Document.Composition
import Lindenmayer.Proofs.Document.Completeness
import Lindenmayer.Proofs.Document.Failure
import Lindenmayer.Decimal.Reading
import Lindenmayer.Document.Reading
import Lindenmayer.Proofs.Decimal.Reading
import Lindenmayer.Proofs.Document.Reading
import Lindenmayer.Proofs.Document.DeclaredBox
import Lindenmayer.Proofs.Alphabet.FirstMention
import Lindenmayer.Proofs.Alphabet.CharacterValues
import Lindenmayer.Proofs.Grammar.Construction
import Lindenmayer.Proofs.Turtle.Agreement
import Lindenmayer.Grammar.Comparison
import Lindenmayer.Proofs.Grammar.Renaming
import Lindenmayer.Grammar.Procedure
import Lindenmayer.Proofs.Grammar.Procedure
import Lindenmayer.Proofs.Grammar.Refusal
import Lindenmayer.Proofs.Document.Refusal
import Lindenmayer.GrammarFile.Contents
import Lindenmayer.Proofs.GrammarFile.Telling
import Lindenmayer.Proofs.GrammarFile.Building
import Lindenmayer.Proofs.GrammarFile.Failure
import Lindenmayer.Json.Tree
import Lindenmayer.Json.Meaning
import Lindenmayer.Proofs.Json.Steps
import Lindenmayer.Proofs.Json.Strings
import Lindenmayer.Proofs.Json.Numbers
import Lindenmayer.Proofs.Json.Spelling
import Lindenmayer.Proofs.Json.Passing
import Lindenmayer.Proofs.Json.Reading
import Lindenmayer.Proofs.Json.Meaning
import Lindenmayer.Proofs.KeyedTable
import Lindenmayer.GrammarFile.Meaning
import Lindenmayer.GrammarFile.Rearrangement
import Lindenmayer.Proofs.GrammarFile.Reading
import Lindenmayer.Proofs.GrammarFile.Order
import Lindenmayer.Turtle.Brackets
import Lindenmayer.Proofs.Turtle.Brackets
import Lindenmayer.Proofs.Json.Numerals
import Lindenmayer.Proofs.Json.Writing
import Lindenmayer.Proofs.GrammarFile.RoundTrip
import Lindenmayer.Document.Contents
import Lindenmayer.Proofs.Document.RoundTrip
import Lindenmayer.Files.Contents
import Lindenmayer.Proofs.Files.Storing
import Lindenmayer.Proofs.CommandLine.Rejection
import Lindenmayer.Path.Bracketing
import Lindenmayer.Proofs.Path.Bracketing
import Lindenmayer.Proofs.Geometry.Union
import Lindenmayer.Proofs.Grammar.Concatenation
import Lindenmayer.Random.Recording
import Lindenmayer.Proofs.Grammar.Saturation
import Lindenmayer.Proofs.Random.Recording
import Lindenmayer.Geometry.Coverage
import Lindenmayer.Proofs.Geometry.Coverage
import Lindenmayer.Proofs.GrammarFile.Coverage
import Lindenmayer.Grammar.SymbolBySymbol
import Lindenmayer.Proofs.Grammar.SymbolBySymbol
import Lindenmayer.Document.Body
import Lindenmayer.Proofs.Decimal.Accuracy
import Lindenmayer.Proofs.Document.Body
import Lindenmayer.Document.Outlet
import Lindenmayer.Proofs.Document.Latching
import Lindenmayer.Proofs.Turtle.Reset
import Lindenmayer.Proofs.Binary64.Identity
import Lindenmayer.Geometry.Assembly
import Lindenmayer.Proofs.Geometry.Assembly
import Lindenmayer.Proofs.Alphabet.Recognition
