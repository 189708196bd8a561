import TripleStore.Id
import TripleStore.Json.Magnitude
import TripleStore.Json.Reader
import TripleStore.Json.Scan
import TripleStore.Json.Skip
import TripleStore.Lexicon
import TripleStore.Load.Error
import TripleStore.Load.File
import TripleStore.Load.Format
import TripleStore.Load.Json
import TripleStore.Load.Turtle
import TripleStore.Main
import TripleStore.PairIndex
import TripleStore.Proofs.PairIndex.Coherence
import TripleStore.Proofs.PairIndex.Listing
import TripleStore.Proofs.Query.Meaning
import TripleStore.Proofs.Query.Validity
import TripleStore.Proofs.Store.AccessPath
import TripleStore.Proofs.Store.Contents
import TripleStore.Proofs.Store.Refinement
import TripleStore.Proofs.Store.Run
import TripleStore.Proofs.Store.Sharing
import TripleStore.Query.Answer
import TripleStore.Query.Lexer
import TripleStore.Query.ParseError
import TripleStore.Query.Parser
import TripleStore.Query.Plan
import TripleStore.Query.Select
import TripleStore.Query.Token
import TripleStore.Query.Validity
import TripleStore.Random.ChaCha
import TripleStore.Random.Draw
import TripleStore.Random.Stream
import TripleStore.Rdf.Host
import TripleStore.Rdf.Iri
import TripleStore.Rdf.LanguageTag
import TripleStore.Rdf.Term
import TripleStore.RoleOrder
import TripleStore.Shell.Run
import TripleStore.Shell.Session
import TripleStore.Shell.Settings
import TripleStore.Store.Basic
import TripleStore.Store.Select
import TripleStore.Table
import TripleStore.Text.Backspace
import TripleStore.Text.Blank
import TripleStore.Text.Cluster
import TripleStore.Text.ClusterPart
import TripleStore.Text.Decimal
import TripleStore.Text.Extender
import TripleStore.Text.Lines
import TripleStore.Text.Pieces
import TripleStore.Text.Quoted
import TripleStore.Text.Range
import TripleStore.Text.Unseen
import TripleStore.Text.Utf8
import TripleStore.Trial.Audit
import TripleStore.Trial.Generator
import TripleStore.Trial.Operation
import TripleStore.Trial.Simulation
import TripleStore.Triple
import TripleStore.Turtle.Graph
import TripleStore.Turtle.Lexer
import TripleStore.Turtle.Name
import TripleStore.Turtle.Place
import TripleStore.Turtle.Token
import TripleStore.Turtle.Tree
import TripleStore.Proofs.Lexicon
import TripleStore.Proofs.Store.Encoding
import TripleStore.Proofs.Query.History
import TripleStore.Proofs.Query.Grammar
import TripleStore.Proofs.Query.Number
import TripleStore.Proofs.Query.Writing
import TripleStore.Proofs.Trial.Generator
import TripleStore.Proofs.Trial.Simulation
import TripleStore.Proofs.Store.Numbering
import TripleStore.Proofs.Store.Growth
import TripleStore.Proofs.Trial.Splitting
import TripleStore.Proofs.Load.JsonLines
import TripleStore.Proofs.Query.Prompt
import TripleStore.Proofs.Query.Cover
import TripleStore.Proofs.Query.Rendering
import TripleStore.Proofs.Load.JsonRecords
import TripleStore.Proofs.Shell.Session
import TripleStore.Proofs.Store.Erasure
import TripleStore.Proofs.Store.Undoing
import TripleStore.Proofs.Lexicon.Extension
import TripleStore.Proofs.Query.FirstFault
import TripleStore.Proofs.Table
import TripleStore.Proofs.Trial.Pools
import TripleStore.Proofs.Load.TurtleEntities
import TripleStore.Proofs.Load.TurtleRecords
import TripleStore.Proofs.Query.TokenParser
import TripleStore.Proofs.Query.NumberExpression
import TripleStore.Proofs.Shell.CellWidth
